import ApiDocs.Proofs.Source.Names

/-!
# Segments of module paths

A path of segments without colons is cut into the same segments again (`segments_ofSegments`), and
the module around it is the path without its last segment (`splitName_ofSegments_concat`).
-/

namespace ApiDocs.ModulePath

/-- A text without marks is one segment. -/
theorem cutSegments_of_not_mem {cs : List Char} (h : ':' ∉ cs) : cutSegments cs = [cs] := by
  induction cs with
  | nil => rfl
  | cons a cs ih =>
    cases cs with
    | nil => rfl
    | cons b rest =>
      have ha : ¬ (a = ':' ∧ b = ':') := fun hmarks => h (hmarks.1 ▸ List.mem_cons_self)
      rw [cutSegments, if_neg ha, ih fun hmem => h (.tail a hmem)]

/-- A segment ends at the first mark behind it. -/
theorem cutSegments_append {cs : List Char} (h : ':' ∉ cs) (rest : List Char) :
    cutSegments (cs ++ ':' :: ':' :: rest) = cs :: cutSegments rest := by
  induction cs with
  | nil => rw [List.nil_append, cutSegments, if_pos ⟨rfl, rfl⟩]
  | cons a cs ih =>
    have hcut := ih fun hmem => h (.tail a hmem)
    obtain ⟨b, more, hmore⟩ : ∃ b more, cs ++ ':' :: ':' :: rest = b :: more :=
      List.exists_cons_of_ne_nil (List.append_ne_nil_of_right_ne_nil cs (List.cons_ne_nil _ _))
    have ha : ¬ (a = ':' ∧ b = ':') := fun hmarks => h (hmarks.1 ▸ List.mem_cons_self)
    rw [List.cons_append, hmore, cutSegments, if_neg ha, ← hmore, hcut]

theorem ofSegments_cons_cons (segment next : String) (rest : List String) :
    ofSegments (segment :: next :: rest) = segment ++ "::" ++ ofSegments (next :: rest) :=
  String.intercalate_cons_cons

theorem ofSegments_concat {segs : List String} (h : segs ≠ []) (last : String) :
    ofSegments (segs ++ [last]) = ofSegments segs ++ "::" ++ last := by
  rw [ofSegments, String.intercalate_append_of_ne_nil h (List.cons_ne_nil _ _),
    String.intercalate_singleton]
  rfl

/-- **Segments.** A path of segments is cut into these segments. -/
theorem segments_ofSegments {segs : List String} (hne : segs ≠ [])
    (h : ∀ segment ∈ segs, ':' ∉ segment.toList) : segments (ofSegments segs) = segs := by
  obtain ⟨segment, rest, rfl⟩ := List.exists_cons_of_ne_nil hne
  rw [segments]
  induction rest generalizing segment with
  | nil =>
    have hsegment := h segment List.mem_cons_self
    rw [ofSegments, String.intercalate_singleton, cutSegments_of_not_mem hsegment,
      List.map_singleton, String.ofList_toList]
  | cons next rest ih =>
    have hsegment := h segment List.mem_cons_self
    have htext : (ofSegments (segment :: next :: rest)).toList =
        segment.toList ++ ':' :: ':' :: (ofSegments (next :: rest)).toList := by
      rw [ofSegments_cons_cons, String.toList_append, String.toList_append, List.append_assoc]
      rfl
    rw [htext, cutSegments_append hsegment, List.map_cons, String.ofList_toList,
      ih next (List.cons_ne_nil _ _) fun other hother => h other (.tail segment hother)]

/-- A path is cut at its last mark, whatever stands before that. -/
theorem cutLast?_append (cs : List Char) {name : List Char} (h : ∀ c ∈ name, c ≠ ':') :
    cutLast? (cs ++ ':' :: ':' :: name) = some (cs, name) := by
  induction cs with
  | nil =>
    have hone : cutLast? (':' :: name) = none := by
      unfold cutLast?
      rw [cutLast?_eq_none h]
      cases name with
      | nil => rfl
      | cons c rest =>
        have hc : c ≠ ':' := h c List.mem_cons_self
        simp [hc]
    rw [List.nil_append]
    unfold cutLast?
    simp only [hone]
  | cons a cs ih =>
    rw [List.cons_append]
    unfold cutLast?
    rw [ih]

/-- **Modules around.** The module around another one is the path without its last segment. -/
theorem splitName_ofSegments_concat {segs : List String} (hne : segs ≠ []) {last : String}
    (h : ∀ c ∈ last.toList, c ≠ ':') :
    splitName (ofSegments (segs ++ [last])) = (some (ofSegments segs), last) := by
  have htext : (ofSegments (segs ++ [last])).toList =
      (ofSegments segs).toList ++ ':' :: ':' :: last.toList := by
    rw [ofSegments_concat hne, String.toList_append, String.toList_append, List.append_assoc]
    rfl
  rw [splitName, htext, cutLast?_append _ h]
  simp only [String.ofList_toList]

end ApiDocs.ModulePath
