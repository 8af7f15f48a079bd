import ApiDocs.Document.Json
import ApiDocs.Proofs.Json.RoundTrip

/-!
# Reading documents that were written

Documents are read back from their JSON text, a list of them from the text with one item to a line
and each of them from its text without blanks (`documents_read_back`). Their fields are read back
from their JSON values (`Document.ofJson?_toJson`), and these values are read back from their texts
(`Document.readable`).
-/

namespace ApiDocs

open Json

/-! ## Documents of JSON values -/

theorem Kind.ofName?_name (k : Kind) : ofName? k.name = some k := by
  cases k <;> rfl

theorem BodyMode.ofName?_name (m : BodyMode) : ofName? m.name = some m := by
  cases m <;> rfl

theorem Status.ofCode?_code (s : Status) : ofCode? s.code = some s := by
  cases s <;> rfl

/-- Values that are read back one by one are read back as a list. -/
theorem mapM_map_eq_some {α β : Type} {f : β → Option α} {g : α → β} {l : List α}
    (h : ∀ a ∈ l, f (g a) = some a) : (l.map g).mapM f = some l := by
  induction l with
  | nil => rfl
  | cons a l ih =>
    have hrest := ih fun b hb => h b (List.mem_cons_of_mem a hb)
    rw [List.map_cons, List.mapM_cons, h a List.mem_cons_self, hrest]
    rfl

/-- A list is read back from a member if its elements are read back. -/
theorem listAt?_eq_some {α : Type} {j : Json} {name : String} {f : Json → Option α}
    {g : α → Json} {l : List α} (hmember : j.member? name = some (.array (l.map g)))
    (h : ∀ a, f (g a) = some a) : j.listAt? name f = some l := by
  rw [listAt?, hmember]
  exact mapM_map_eq_some fun a _ => h a

/-- A parameter of a request is read back. -/
theorem RequestParam.ofJson?_toJson (p : RequestParam) : ofJson? p.toJson = some p := by
  have hkind : p.toJson.stringAt? "type" = some p.kind.name := rfl
  rw [ofJson?, hkind]
  simp only [Option.bind_eq_bind, Option.bind_some, Kind.ofName?_name]
  rfl

/-- A parameter of a response is read back. -/
theorem ResponseParam.ofJson?_toJson (p : ResponseParam) : ofJson? p.toJson = some p := by
  have hkind : p.toJson.stringAt? "type" = some p.kind.name := rfl
  rw [ofJson?, hkind]
  simp only [Option.bind_eq_bind, Option.bind_some, Kind.ofName?_name]
  rfl

theorem Response.ofJson?_toJson (r : Response) : ofJson? r.toJson = some r := by
  have hparams : r.toJson.listAt? "params" ResponseParam.ofJson? = some r.params :=
    listAt?_eq_some rfl ResponseParam.ofJson?_toJson
  rw [ofJson?, hparams]
  rfl

/-- An empty example body is left out. -/
theorem Request.member?_bodyExample (r : Request) :
    r.toJson.member? "param_json" =
      if r.bodyExample.isEmpty then none else some (.string r.bodyExample) := by
  rw [toJson]
  split <;> rfl

/-- A request is read back, with its body example or without one. -/
theorem Request.ofJson?_toJson (r : Request) : ofJson? r.toJson = some r := by
  have hstatus : r.toJson.stringAt? "api_status" = some r.status.code := rfl
  have hheaders : r.toJson.listAt? "headers" RequestParam.ofJson? = some r.headers :=
    listAt?_eq_some rfl RequestParam.ofJson?_toJson
  have hvariables : r.toJson.listAt? "path_variables" RequestParam.ofJson? =
      some r.pathVariables := listAt?_eq_some rfl RequestParam.ofJson?_toJson
  have hquery : r.toJson.listAt? "query" RequestParam.ofJson? = some r.query :=
    listAt?_eq_some rfl RequestParam.ofJson?_toJson
  have hmode : r.toJson.stringAt? "param_mode" = some r.mode.name := rfl
  have hparams : r.toJson.listAt? "params" RequestParam.ofJson? = some r.params :=
    listAt?_eq_some rfl RequestParam.ofJson?_toJson
  rw [ofJson?, hstatus, hheaders, hvariables, hquery, hmode, hparams, r.member?_bodyExample]
  simp only [Option.bind_eq_bind, Option.bind_some, Status.ofCode?_code, BodyMode.ofName?_name]
  by_cases hempty : r.bodyExample.isEmpty
  · have hbody : r.bodyExample = "" := String.isEmpty_iff.mp hempty
    obtain ⟨method, url, status, headers, pathVariables, query, mode, params, bodyExample⟩ := r
    cases hbody
    rfl
  · rw [if_neg hempty]
    rfl

/-- A document number is read back from its JSON value. -/
theorem Document.orderOfJson?_whole (n : UInt32) : orderOfJson? (.whole n.toNat) = some n := by
  have hrange : (0 : Int) ≤ n.toNat ∧ (n.toNat : Int) < (Decimal.twoTo 32 : Nat) :=
    ⟨Int.natCast_nonneg _, Int.ofNat_lt.mpr n.toNat_lt⟩
  have hwhole : (Json.whole n.toNat).whole? = some (n.toNat : Int) := rfl
  rw [orderOfJson?, hwhole, Option.bind_eq_bind, Option.bind_some, if_pos hrange,
    Int.toNat_natCast, UInt32.ofNat_toNat]

/-- A document is read back from its JSON value. -/
theorem Document.ofJson?_toJson (d : Document) : ofJson? d.toJson = some d := by
  have horder : ∃ j, d.toJson.member? "order" = some j ∧ orderOfJson? j = some d.order :=
    ⟨.whole d.order.toNat, rfl, orderOfJson?_whole d.order⟩
  obtain ⟨j, hj, horder⟩ := horder
  have hrequest : d.toJson.member? "request" = some d.request.toJson := rfl
  have hresponse : d.toJson.member? "response" = some d.response.toJson := rfl
  have hfailure : d.toJson.member? "response_fail" = some d.failure.toJson := rfl
  rw [ofJson?, hj, hrequest, hresponse, hfailure]
  simp only [Option.bind_eq_bind, Option.bind_some, horder, Request.ofJson?_toJson,
    Response.ofJson?_toJson]
  rfl

/-! ## Values of texts -/

/-- A list can be read if its elements can be. -/
theorem readable_array_map {α : Type} {depth : Nat} {f : α → Json} {l : List α}
    (h : ∀ a ∈ l, Readable depth (f a)) : Readable (depth + 1) (.array (l.map f)) := by
  refine .array fun j hj => ?_
  obtain ⟨a, ha, rfl⟩ := List.mem_map.mp hj
  exact h a ha

/-- A parameter of a request is an object without nested ones. -/
theorem RequestParam.readable (p : RequestParam) (depth : Nat) : Readable (depth + 1) p.toJson := by
  refine .object (by simp) ?_
  simp only [List.forall_mem_cons, List.not_mem_nil, false_imp_iff, implies_true, and_true]
  exact ⟨.string _ _, .string _ _, .bool _ _, .string _ _, .string _ _⟩

/-- A parameter of a response is an object without nested ones. -/
theorem ResponseParam.readable (p : ResponseParam) (depth : Nat) :
    Readable (depth + 1) p.toJson := by
  refine .object (by simp) ?_
  simp only [List.forall_mem_cons, List.not_mem_nil, false_imp_iff, implies_true, and_true]
  exact ⟨.string _ _, .string _ _, .string _ _⟩

theorem Response.readable (r : Response) (depth : Nat) : Readable (depth + 3) r.toJson := by
  refine .object (by simp) ?_
  simp only [List.forall_mem_cons, List.not_mem_nil, false_imp_iff, implies_true, and_true]
  exact ⟨.string _ _, readable_array_map fun p _ => p.readable depth⟩

theorem Request.readable (r : Request) (depth : Nat) : Readable (depth + 3) r.toJson := by
  have hparams (l : List RequestParam) :
      Readable (depth + 2) (.array (l.map RequestParam.toJson)) :=
    readable_array_map fun p _ => p.readable depth
  by_cases hempty : r.bodyExample.isEmpty
  · rw [toJson, if_pos hempty]
    refine .object (by simp) ?_
    simp only [List.append_nil, List.forall_mem_cons, List.not_mem_nil, false_imp_iff, implies_true,
      and_true]
    exact ⟨.string _ _, .string _ _, .string _ _, hparams _, hparams _, hparams _, .string _ _,
      hparams _⟩
  · rw [toJson, if_neg hempty]
    refine .object (by simp) ?_
    simp only [List.cons_append, List.nil_append, List.forall_mem_cons, List.not_mem_nil,
      false_imp_iff, implies_true, and_true]
    exact ⟨.string _ _, .string _ _, .string _ _, hparams _, hparams _, hparams _, .string _ _,
      hparams _, .string _ _⟩

/-- The JSON value of a document is read back from its text. -/
theorem Document.readable (d : Document) (depth : Nat) : Readable (depth + 4) d.toJson := by
  have hbits : Decimal.twoTo 32 ≤ Decimal.twoTo 64 := Nat.pow_le_pow_right (by decide) (by decide)
  have horder : d.order.toNat ≤ maxWhole :=
    Nat.le_sub_one_of_lt (Nat.lt_of_lt_of_le d.order.toNat_lt hbits)
  refine .object (by simp) ?_
  simp only [List.forall_mem_cons, List.not_mem_nil, false_imp_iff, implies_true, and_true]
  exact ⟨.string _ _, .string _ _, .string _ _, .string _ _,
    .number _ (Number.readsBack_natCast horder), d.request.readable depth,
    d.response.readable depth, d.failure.readable depth⟩

/-! ## Documents of texts -/

/-- **Documents read back.** Documents are read back from the JSON text of their list, and each of
them from its own JSON text. -/
theorem documents_read_back (docs : List Document) :
    (Json.parse? (Document.listText docs)).bind Document.listOfJson? = some docs ∧
      ∀ d ∈ docs, (Json.parse? d.text).bind Document.ofJson? = some d := by
  constructor
  · have hreadable : Readable maxDepth (.array (docs.map Document.toJson)) :=
      readable_array_map fun d _ => d.readable 122
    have hparse : Json.parse? (Document.listText docs) =
        some (.array (docs.map Document.toJson)) :=
      parse?_render hreadable (Style.indented_isBlank 2)
    rw [hparse, Option.bind_some]
    exact mapM_map_eq_some fun d _ => d.ofJson?_toJson
  · intro d _
    have hparse : Json.parse? d.text = some d.toJson :=
      parse?_render (d.readable 123) Style.compact_isBlank
    rw [hparse, Option.bind_some, d.ofJson?_toJson]

/-- Documents with quotes, backslashes, line breaks, control characters and characters outside the
basic plane, with the greatest number, and with and without an example body. -/
def trickyDocuments : List Document :=
  let request : Request :=
    { status := .deprecated
      query := [⟨"ids[]", .array, true, "/", "é"⟩]
      mode := .json
      bodyExample := "\x7b\"a\": []\x7d" }
  [{ title := "say \"hi\\ho\"\n"
     remark := "\t\x01\x1f😀"
     order := 4294967295
     request := request
     failure := { params := [⟨"code", .int, ""⟩] } },
    { order := 0
      response := { sample := "\r", params := [⟨"", .object, "\x7f"⟩] } }]

/-- Texts that need escapes are read back, in a list and on their own. -/
theorem documents_read_back_trickyDocuments :
    (Json.parse? (Document.listText trickyDocuments)).bind Document.listOfJson? =
        some trickyDocuments ∧
      ∀ d ∈ trickyDocuments, (Json.parse? d.text).bind Document.ofJson? = some d :=
  documents_read_back trickyDocuments

end ApiDocs
