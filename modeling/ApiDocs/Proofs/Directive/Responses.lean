import ApiDocs.Assembly
import ApiDocs.Proofs.Directive.Inheritance
import ApiDocs.Proofs.Expansion.Samples

/-!
# The response on success

The example of a response is kept as a text: a later example is put into it by reading the text,
setting the member `data` of the object, and writing it again. An example is read back from its
text (`mergeSample_pretty`), so that after any lines the text is that of the first example with the
last one as its data (`accepted_response`).
-/

namespace ApiDocs

namespace Json

/-! ## Setting a member -/

/-- Sets a member: in place if there is one with the name, at the end otherwise. -/
def setMember (name : String) (value : Json) (members : List (String × Json)) :
    List (String × Json) :=
  if name ∈ members.map Prod.fst then
    members.map fun member => if member.1 = name then (name, value) else member
  else members ++ [(name, value)]

/-- An object with a member set. -/
def withMember (j : Json) (name : String) (value : Json) : Json :=
  match j with
  | .object members => .object (setMember name value members)
  | j => j

/-- Members with other names stay. -/
theorem map_eq_self_of_notMem {name : String} {value : Json} {members : List (String × Json)}
    (h : name ∉ members.map Prod.fst) :
    members.map (fun member => if member.1 = name then (name, value) else member) = members := by
  refine (List.map_congr_left fun member hmember => if_neg ?_).trans (List.map_id' members)
  rintro rfl
  exact h (List.mem_map_of_mem hmember)

/-- Where no name stands twice, a member is put in by setting it. -/
theorem put_eq_setMember {name : String} {value : Json} {members : List (String × Json)}
    (h : (members.map Prod.fst).Nodup) : put name value members = setMember name value members := by
  by_cases hmem : name ∈ members.map Prod.fst
  · rw [setMember, if_pos hmem]
    induction members with
    | nil => cases hmem
    | cons member rest ih =>
      obtain ⟨key, old⟩ := member
      rw [List.map_cons, List.nodup_cons] at h
      rw [put, List.map_cons]
      by_cases hkey : key = name
      · subst hkey
        -- no later member has the name
        rw [if_pos rfl, if_pos rfl, map_eq_self_of_notMem h.1]
      · have hlater : name ∈ rest.map Prod.fst :=
          (List.mem_cons.mp hmem).resolve_left (Ne.symm hkey)
        rw [if_neg hkey, if_neg hkey, ih h.2 hlater]
  · rw [setMember, if_neg hmem, put_of_notMem hmem]

/-- Setting a member keeps the order of the names. -/
theorem names_setMember (name : String) (value : Json) (members : List (String × Json)) :
    (setMember name value members).map Prod.fst =
      if name ∈ members.map Prod.fst then members.map Prod.fst
      else members.map Prod.fst ++ [name] := by
  unfold setMember
  split
  · rw [List.map_map]
    refine List.map_congr_left fun member _ => ?_
    rw [Function.comp_apply]
    split
    · rename_i heq
      exact heq.symm
    · rfl
  · rw [List.map_append, List.map_singleton]

theorem mem_names_setMember (name : String) (value : Json) (members : List (String × Json)) :
    name ∈ (setMember name value members).map Prod.fst := by
  rw [names_setMember]
  split
  · assumption
  · exact List.mem_append_right _ List.mem_cons_self

/-- The last value of a member counts. -/
theorem setMember_setMember (name : String) (value last : Json) (members : List (String × Json)) :
    setMember name last (setMember name value members) = setMember name last members := by
  rw [setMember, if_pos (mem_names_setMember name value members)]
  by_cases hmem : name ∈ members.map Prod.fst
  · rw [setMember, setMember, if_pos hmem, if_pos hmem, List.map_map]
    refine List.map_congr_left fun member _ => ?_
    by_cases heq : member.1 = name
    · rw [Function.comp_apply, if_pos heq, if_pos rfl, if_pos heq]
    · rw [Function.comp_apply, if_neg heq, if_neg heq]
  · rw [setMember, setMember, if_neg hmem, if_neg hmem, List.map_append, List.map_singleton,
      if_pos rfl, map_eq_self_of_notMem hmem]

/-- A member that is set twice has the last value. -/
theorem withMember_withMember (j : Json) (name : String) (value last : Json) :
    (j.withMember name value).withMember name last = j.withMember name last := by
  cases j with
  | object members => exact congrArg Json.object (setMember_setMember name value last members)
  | null | bool _ | number _ | string _ | array _ => rfl

/-- Whether a value is an object that is read back from its text. -/
def IsRecord (j : Json) : Prop :=
  (∃ members, j = .object members) ∧ j.ReadsBack

/-- A record stays one when a member is set to something that is read back. -/
theorem IsRecord.withMember {j value : Json} (h : j.IsRecord) (hvalue : value.ReadsBack)
    (name : String) : (j.withMember name value).IsRecord := by
  obtain ⟨⟨members, rfl⟩, hread⟩ := h
  obtain ⟨hnames, hmembers⟩ := hread.of_object
  refine ⟨⟨_, rfl⟩, .object ?_ ?_⟩
  · rw [names_setMember]
    split
    · exact hnames
    · rename_i hmem
      exact List.Nodup.append hnames (List.nodup_singleton name)
        (List.disjoint_singleton.mpr hmem)
  · intro member hmember
    unfold setMember at hmember
    split at hmember
    · obtain ⟨old, hold, rfl⟩ := List.mem_map.mp hmember
      split
      · exact hvalue
      · exact hmembers old hold
    · rcases List.mem_append.mp hmember with hold | hnew
      · exact hmembers member hold
      · cases List.mem_singleton.mp hnew
        exact hvalue

/-! ## Envelopes -/

/-- Examples one after the other: the first, and then the first with each other one as its
data. -/
def stages : List Json → List Json
  | [] => []
  | first :: rest => first :: rest.map (first.withMember "data")

/-- The first example, with the last one as its data where there are more. -/
def envelope? : List Json → Option Json
  | [] => none
  | first :: rest => some (rest.getLast?.elim first (first.withMember "data"))

theorem getLast?_stages (samples : List Json) : (stages samples).getLast? = envelope? samples := by
  cases samples with
  | nil => rfl
  | cons first rest =>
    rw [stages, envelope?, List.getLast?_cons, List.getLast?_map]
    cases rest.getLast? with
    | none => rfl
    | some last => rfl

/-- One more example replaces the data of the envelope so far. -/
theorem stages_concat {samples : List Json} {envelope : Json}
    (h : envelope? samples = some envelope) (sample : Json) :
    stages (samples ++ [sample]) = stages samples ++ [envelope.withMember "data" sample] := by
  cases samples with
  | nil => cases h
  | cons first rest =>
    obtain rfl : rest.getLast?.elim first (first.withMember "data") = envelope := Option.some.inj h
    rw [List.cons_append, stages, stages, List.map_append, List.map_singleton, List.cons_append]
    cases rest.getLast? with
    | none => rfl
    | some last => rw [Option.elim_some, withMember_withMember]

/-- If all examples are records, all stages are. -/
theorem isRecord_of_mem_stages {samples : List Json} (h : ∀ sample ∈ samples, sample.IsRecord)
    {j : Json} (hj : j ∈ stages samples) : j.IsRecord := by
  cases samples with
  | nil => cases hj
  | cons first rest =>
    have hfirst := h first List.mem_cons_self
    rcases List.mem_cons.mp hj with rfl | hrest
    · exact hfirst
    · obtain ⟨sample, hsample, rfl⟩ := List.mem_map.mp hrest
      exact hfirst.withMember (h sample (List.mem_cons_of_mem _ hsample)).2 "data"

end Json

namespace Directive

open Json

/-! ## One example -/

/-- An example goes into the object whose text is there already. -/
theorem mergeSample_pretty {j : Json} (h : j.IsRecord) (hdeep : j.nesting < 128) (sample : Json) :
    mergeSample (j.pretty 4) sample = (j.withMember "data" sample).pretty 4 := by
  obtain ⟨⟨members, rfl⟩, hread⟩ := h
  have hparse : parse? ((Json.object members).pretty 4) = some (.object members) :=
    parse?_render (hread.readable (Nat.le_of_lt_succ hdeep)) (Style.indented_isBlank 4)
  obtain ⟨rest, hrest⟩ : ∃ rest,
      ((Json.object members).pretty 4).toList = '\x7b' :: rest := by
    rw [pretty, String.toList_ofList]
    cases members <;> exact ⟨_, rfl⟩
  have hnonempty : ((Json.object members).pretty 4).isEmpty = false := by
    rw [Bool.eq_false_iff, Ne, String.isEmpty_iff]
    exact hread.pretty_ne_empty 4
  have hhead : (('\x7b' :: rest).head? == some '\x7b') = true := rfl
  rw [mergeSample, hnonempty, hrest, hparse, if_neg Bool.false_ne_true, if_pos hhead, withMember]
  simp only [put_eq_setMember hread.of_object.1]

/-- What a payload describes comes with the example of an expansion. -/
theorem isRecord_of_describe {α : Type} {scope : Option TypeScope} {ofField : Field → α}
    {single? : String → Option α} {cause : DirectiveCause} {payload : String} {s s' : Session}
    {params : List α} {sample : Json}
    (h : describe scope ofField single? cause payload s = (.ok (params, some sample), s')) :
    sample.IsRecord := by
  obtain ⟨name, e, s₁, hexpand, rfl⟩ : ∃ name e s₁,
      expand scope name s = (some e, s₁) ∧ e.sample = sample := by
    unfold describe at h
    split at h
    · rename_i name _
      split at h
      · rename_i e s₁ heq
        cases h
        exact ⟨name, e, _, heq, rfl⟩
      · cases h
    · split at h <;> cases h
  obtain ⟨scope, hnamed⟩ : ∃ scope : TypeScope,
      (s.expandNamed scope.loader name scope.unit).1 = some e := by
    unfold expand at hexpand
    split at hexpand
    · cases hexpand
    · split at hexpand
      · cases hexpand
      · rename_i scope
        split at hexpand
        · rename_i heq
          cases hexpand
          exact ⟨scope, by rw [heq]⟩
        · cases hexpand
  obtain ⟨id, s₂, hid⟩ : ∃ id s₂, (Session.expand scope.loader id s₂).1 = some e := by
    unfold Session.expandNamed at hnamed
    split at hnamed
    · exact ⟨_, _, hnamed⟩
    · cases hnamed
  unfold Session.expand at hid
  split at hid
  · rename_i e' w heq
    obtain rfl : e' = some e := hid
    exact ⟨⟨_, rfl⟩, expand_readsBack heq⟩
  · cases hid

/-! ## Lines -/

/-- What a line describes of the response on success, if it is about it. -/
def describedResponse? (scope : Option TypeScope) (operation line : String) (s : Session) :
    Option (Described ResponseParam) :=
  match splitLine? line with
  | none => none
  | some (word, payload) =>
    if !operation.isEmpty && sameName word operation then none
    else if Keyword.ofWord word = .response then
      (describe scope responseParam responseParam? (.responseFields "@response") payload
        s).1.toOption
    else none

variable {scope : Option TypeScope} {doc doc' : Document} {s s' : Session}

/-- Only lines about the response on success change it. -/
theorem applyKeyword_response {keyword : Keyword} {payload : String}
    (hkeyword : keyword ≠ .response)
    (h : applyKeyword scope keyword payload doc s = (.ok doc', s')) :
    doc'.response = doc.response := by
  cases keyword with
  | title | catalog | description | remark | status | unknown =>
    cases h
    rfl
  | url =>
    rw [applyKeyword, applyUrl] at h
    split at h <;> cases h
    rfl
  | header =>
    rw [applyKeyword, applyHeader] at h
    split at h <;> cases h
    rfl
  | pathVariable =>
    rw [applyKeyword, applyPathVariable] at h
    split at h <;> cases h
    rfl
  | mode =>
    rw [applyKeyword, applyMode] at h
    split at h
    · cases h
    · split at h <;> cases h
      rfl
  | query | failure =>
    obtain ⟨described, rfl⟩ := exists_described_of_put_ok h
    rfl
  | param =>
    obtain ⟨described, rfl⟩ := exists_described_of_put_ok h
    obtain ⟨request, hrequest, -⟩ := exists_request_of_withParams doc described
    rw [hrequest]
  | response => exact absurd rfl hkeyword

/-- The response after a line is merged with what the line describes of it. -/
theorem applyLine_response {operation line : String}
    (h : applyLine scope operation line doc s = (.ok doc', s')) :
    doc'.response = (describedResponse? scope operation line s).elim doc.response
      (mergeResponse doc.response) := by
  unfold applyLine at h
  unfold describedResponse?
  rcases hsplit : splitLine? line with _ | ⟨word, payload⟩
  · rw [hsplit] at h
    cases h
    rfl
  · rw [hsplit] at h
    by_cases htitle : (!operation.isEmpty && sameName word operation) = true
    · simp only [if_pos htitle] at h ⊢
      cases h
      rfl
    · simp only [if_neg htitle] at h ⊢
      by_cases hkeyword : Keyword.ofWord word = .response
      · rw [hkeyword, applyKeyword] at h
        rw [if_pos hkeyword]
        rcases hdescribe : describe scope responseParam responseParam?
          (.responseFields "@response") payload s with ⟨e | described, s₁⟩
        · rw [hdescribe] at h
          cases h
        · rw [hdescribe] at h
          cases h
          rfl
      · rw [if_neg hkeyword]
        exact applyKeyword_response hkeyword h

/-- What a line gives as an example is a record. -/
theorem isRecord_of_describedResponse? {operation line : String} {params : List ResponseParam}
    {sample : Json}
    (h : describedResponse? scope operation line s = some (params, some sample)) :
    sample.IsRecord := by
  unfold describedResponse? at h
  split at h
  · cases h
  · rename_i word payload _
    split at h
    · cases h
    · split at h
      · rcases hdescribe : describe scope responseParam responseParam?
          (.responseFields "@response") payload s with ⟨e | described, s₁⟩
        · rw [hdescribe] at h
          cases h
        · rw [hdescribe] at h
          cases h
          exact isRecord_of_describe hdescribe
      · cases h

/-! ## Documents -/

/-- Documents that come from the empty one by lines without mistakes, general ones and ones of an
operation that starts from the general document, with all that the lines describe of the response
on success. -/
inductive Accepted : Document → List (Described ResponseParam) → Prop where
  /-- The empty document. -/
  | empty : Accepted {} []
  /-- One more line, in any session. -/
  | line {scope : Option TypeScope} {operation line : String} {doc doc' : Document}
      {s s' : Session} {described : List (Described ResponseParam)} (h : Accepted doc described)
      (hline : applyLine scope operation line doc s = (.ok doc', s')) :
      Accepted doc' (described ++ (describedResponse? scope operation line s).toList)
  /-- The start of an operation. -/
  | seeded {doc : Document} {described : List (Described ResponseParam)}
      (h : Accepted doc described) : Accepted doc.seeded described

/-- The examples among what lines describe. -/
def samplesOf (described : List (Described ResponseParam)) : List Json :=
  described.filterMap Prod.snd

/-- All examples of an accepted document are records. -/
theorem Accepted.isRecord {described : List (Described ResponseParam)}
    (h : Accepted doc described) : ∀ sample ∈ samplesOf described, sample.IsRecord := by
  induction h with
  | empty => exact nofun
  | @line scope operation line _ _ s _ described _ _ ih =>
    intro sample hsample
    rw [samplesOf, List.filterMap_append] at hsample
    rcases List.mem_append.mp hsample with hold | hnew
    · exact ih sample hold
    · obtain ⟨⟨params, sample?⟩, hmem, hsome⟩ := List.mem_filterMap.mp hnew
      obtain rfl : sample? = some sample := hsome
      exact isRecord_of_describedResponse? (Option.mem_toList.mp hmem)
  | seeded _ ih => exact ih

/-- The parameters of an accepted document are those that its lines describe, one after the
other. -/
theorem Accepted.params_eq {described : List (Described ResponseParam)}
    (h : Accepted doc described) : doc.response.params = described.flatMap Prod.fst := by
  induction h with
  | empty => rfl
  | @line scope operation line doc doc' s s' described _ hline ih =>
    rw [applyLine_response hline, List.flatMap_append, ← ih]
    cases describedResponse? scope operation line s with
    | none => exact (List.append_nil _).symm
    | some one => exact congrArg _ (List.append_nil _).symm
  | seeded _ ih => exact ih

/-- The example is the text of the envelope so far. -/
theorem Accepted.sample_eq {described : List (Described ResponseParam)} (h : Accepted doc described)
    (hdeep : ∀ j ∈ (stages (samplesOf described)).dropLast, j.nesting < 128) :
    doc.response.sample = (envelope? (samplesOf described)).elim "" (·.pretty 4) := by
  induction h with
  | empty => rfl
  | @line scope operation line doc doc' s s' described hbefore hline ih =>
    rw [applyLine_response hline]
    rcases hone : describedResponse? scope operation line s with _ | ⟨params, _ | sample⟩
    · rw [hone, Option.toList_none, List.append_nil] at hdeep
      rw [Option.toList_none, List.append_nil]
      exact ih hdeep
    · have hnone : samplesOf (described ++ [(params, none)]) = samplesOf described := by
        rw [samplesOf, List.filterMap_append]
        exact List.append_nil _
      rw [hone, Option.toList_some, hnone] at hdeep
      rw [Option.toList_some, hnone]
      exact ih hdeep
    · have hsome : samplesOf (described ++ [(params, some sample)]) =
          samplesOf described ++ [sample] := by
        rw [samplesOf, List.filterMap_append]
        rfl
      rw [hone, Option.toList_some, hsome] at hdeep
      rw [Option.toList_some, hsome]
      show mergeSample doc.response.sample sample = _
      rcases henvelope : envelope? (samplesOf described) with _ | envelope
      · have hempty : samplesOf described = [] := by
          cases hsamples : samplesOf described with
          | nil => rfl
          | cons first rest =>
            rw [hsamples] at henvelope
            cases henvelope
        have hsample : doc.response.sample = "" := by
          rw [ih (by rw [hempty]; exact nofun), henvelope]
          rfl
        rw [hsample, hempty]
        rfl
      · -- all earlier stages are read back
        rw [stages_concat henvelope, List.dropLast_concat] at hdeep
        have hlast : envelope ∈ stages (samplesOf described) :=
          List.mem_of_getLast? ((getLast?_stages _).trans henvelope)
        have hsample : doc.response.sample = envelope.pretty 4 := by
          rw [ih fun j hj => hdeep j (List.dropLast_subset _ hj), henvelope]
          rfl
        rw [hsample, mergeSample_pretty (isRecord_of_mem_stages hbefore.isRecord hlast)
          (hdeep envelope hlast), ← getLast?_stages, stages_concat henvelope,
          List.getLast?_concat]
        rfl
  | seeded _ ih => exact ih hdeep

/-- What lines describe of the response on success, one after the other. -/
def describedResponses (scope : TypeScope) (operation : String) :
    List String → Document → Session → List (Described ResponseParam)
  | [], _, _ => []
  | line :: rest, doc, s =>
    let s := if operation.isEmpty then s else s.note [.applying operation line]
    (describedResponse? (some scope) operation line s).toList ++
      match applyLine (some scope) operation line doc s with
      | (.ok doc, s) => describedResponses scope operation rest doc s
      | (.error _, _) => []

/-- The documents of operations, and the general ones, are made by such lines. -/
theorem Accepted.applyLines {scope : TypeScope} {operation : String} {lines : List String}
    {described : List (Described ResponseParam)} (h : Accepted doc described)
    (hlines : Assembly.applyLines scope operation lines doc s = (.ok doc', s')) :
    Accepted doc' (described ++ describedResponses scope operation lines doc s) := by
  induction lines generalizing doc s described with
  | nil =>
    cases hlines
    rw [describedResponses, List.append_nil]
    exact h
  | cons line rest ih =>
    unfold Assembly.applyLines at hlines
    unfold describedResponses
    simp only at hlines ⊢
    obtain ⟨⟨answer, s₁⟩, hline⟩ : ∃ r, applyLine (some scope) operation line doc
      (if operation.isEmpty then s else s.note [.applying operation line]) = r := ⟨_, rfl⟩
    rw [hline] at hlines ⊢
    cases answer with
    | error e => cases hlines
    | ok doc₁ =>
      rw [← List.append_assoc]
      exact ih (h.line hline) hlines

end Directive

/-- **Responses.** After any lines without mistakes, the parameters of the response on success are
all those that the lines describe, and its example is that of the first type, with the example of
the last one as its data where there are more. -/
theorem accepted_response {doc : Document} {described : List (Directive.Described ResponseParam)}
    (h : Directive.Accepted doc described)
    (hdeep : ∀ j ∈ (Json.stages (Directive.samplesOf described)).dropLast, j.nesting < 128) :
    doc.response.params = described.flatMap Prod.fst ∧
      doc.response.sample =
        match Directive.samplesOf described with
        | [] => ""
        | [sample] => sample.pretty 4
        | first :: next :: rest =>
          (first.withMember "data" ((next :: rest).getLast (List.cons_ne_nil _ _))).pretty 4 := by
  refine ⟨h.params_eq, ?_⟩
  rw [h.sample_eq hdeep]
  split
  · rename_i heq
    rw [heq]
    rfl
  · rename_i heq
    rw [heq]
    rfl
  · rename_i first next rest heq
    rw [heq, Json.envelope?, List.getLast?_eq_some_getLast (List.cons_ne_nil next rest)]
    rfl

/-- A response with data in its middle, and two structures that are put there. -/
def replyTypes : List SourceUnit :=
  [{ path := ⟨"a.rs"⟩, module := "crate::a",
     types :=
      [⟨"Reply", .struct
        [⟨"code", "code", .named "i32", false, false, false, false, ""⟩,
          ⟨"data", "data", .named "String", false, false, false, false, ""⟩,
          ⟨"note", "note", .named "bool", false, false, false, false, ""⟩]⟩,
        ⟨"User", .struct
          [⟨"name", "name", .named "String", false, false, false, false, "the \"name\""⟩]⟩,
        ⟨"Page", .struct
          [⟨"users", "users", .sequence (.named "User"), false, false, false, false, ""⟩]⟩] }]

/-- The general lines. -/
def replyGeneral : Except DirectiveError Document × Session :=
  Assembly.applyLines ⟨Loader.none, 0⟩ "" ["@resp Reply\x7b\x7d"] {}
    (({} : Session).addScanned replyTypes)

/-- The lines of an operation. -/
def replyLines : List String :=
  ["@resp User\x7b\x7d", "@resp total int \"all\"", "@resp Page\x7b\x7d"]

/-- The document that an operation starts from. -/
def replyStart : Document :=
  (replyGeneral.1.toOption.getD {}).seeded

/-- The operation. -/
def replyRun : Except DirectiveError Document × Session :=
  Assembly.applyLines ⟨Loader.none, 0⟩ "list_users" replyLines replyStart replyGeneral.2

/-- What all lines describe. -/
def replyDescribed : List (Directive.Described ResponseParam) :=
  [] ++ Directive.describedResponses ⟨Loader.none, 0⟩ "" ["@resp Reply\x7b\x7d"] {}
      (({} : Session).addScanned replyTypes)
    ++ Directive.describedResponses ⟨Loader.none, 0⟩ "list_users" replyLines replyStart
      replyGeneral.2

theorem eq_ok_of_isSome {r : Except DirectiveError Document × Session}
    (h : r.1.toOption.isSome) : r = (.ok (r.1.toOption.getD {}), r.2) := by
  obtain ⟨_ | doc, s⟩ := r
  · cases h
  · rfl

/-- A response with two structures as its data: the last one stays in the example, and the
parameters of both are listed. -/
theorem accepted_response_replyRun :
    ∃ doc s, replyRun = (.ok doc, s) ∧ Directive.Accepted doc replyDescribed ∧
      (∀ j ∈ (Json.stages (Directive.samplesOf replyDescribed)).dropLast, j.nesting < 128) ∧
        doc.response.params.map ResponseParam.name =
          ["code", "data", "note", "name", "total", "users", "users.name"] ∧
        doc.response.sample =
          "\x7b
    \"code\": 0,
    \"data\": \x7b
        \"users\": [
            \x7b
                \"name\": \"the \\\"name\\\"\"
            \x7d
        ]
    \x7d,
    \"note\": false
\x7d" := by
  have hgeneral : Directive.Accepted (replyGeneral.1.toOption.getD {}) _ :=
    Directive.Accepted.empty.applyLines (eq_ok_of_isSome (r := replyGeneral) (by decide +kernel))
  have hrun := eq_ok_of_isSome (r := replyRun) (by decide +kernel)
  have haccepted := hgeneral.seeded.applyLines hrun
  have hdeep : ∀ j ∈ (Json.stages (Directive.samplesOf replyDescribed)).dropLast,
      j.nesting < 128 := by
    decide +kernel
  obtain ⟨hparams, hsample⟩ := accepted_response haccepted hdeep
  refine ⟨_, _, hrun, haccepted, hdeep, ?_, ?_⟩
  · rw [hparams]
    decide +kernel
  · rw [hsample]
    decide +kernel

end ApiDocs
