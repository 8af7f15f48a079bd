import ApiDocs.Proofs.Expansion.Contributions
import Mathlib.Data.List.Induction

/-!
# Contributions are merged by name

Where contributions to an expansion have the same name, the first one has the place and the last one
is what stands there. `Expansion.merge` says this of a list of contributions as a whole, and adding
them one after the other comes to the same (`pushAll_eq_merge`). So a structure expands to the merge
of what its fields contribute (`expand_merges`), also where a contribution is itself a merge.
-/

namespace ApiDocs

namespace Expansion

/-- The names of contributions. -/
def names (pairs : List (Field × Json)) : List String :=
  pairs.map fun pair => pair.1.name

/-- The last contribution of a name. -/
def last? (name : String) (pairs : List (Field × Json)) : Option (Field × Json) :=
  (pairs.filter fun pair => pair.1.name = name).getLast?

/-- The contributions that stay: the last one of each name, in the order of the first ones. -/
def kept (pairs : List (Field × Json)) : List (Field × Json) :=
  (names pairs).eraseDups.filterMap fun name => last? name pairs

/-- The expansion with the given fields, each with its example. -/
def ofPairs (pairs : List (Field × Json)) : Expansion :=
  ⟨pairs.map Prod.fst, pairs.map fun pair => (pair.1.name, pair.2)⟩

/-- The expansion to which contributions are merged. -/
def merge (pairs : List (Field × Json)) : Expansion :=
  ofPairs (kept pairs)

/-! ## One more contribution -/

theorem last?_concat (name : String) (pairs : List (Field × Json)) (pair : Field × Json) :
    last? name (pairs ++ [pair]) =
      if pair.1.name = name then some pair else last? name pairs := by
  unfold last?
  rw [List.filter_append]
  by_cases hname : pair.1.name = name
  · rw [if_pos hname, List.filter_cons_of_pos (by simpa using hname), List.filter_nil,
      List.getLast?_concat]
  · rw [if_neg hname, List.filter_cons_of_neg (by simpa using hname), List.filter_nil,
      List.append_nil]

/-- The last contribution of a name has this name. -/
theorem name_of_last? {name : String} {pairs : List (Field × Json)} {pair : Field × Json}
    (h : last? name pairs = some pair) : pair.1.name = name := by
  have hmem := List.mem_of_getLast? h
  simpa using (List.mem_filter.mp hmem).2

/-- The last contribution of a name is one of the contributions. -/
theorem mem_of_last? {name : String} {pairs : List (Field × Json)} {pair : Field × Json}
    (h : last? name pairs = some pair) : pair ∈ pairs :=
  (List.mem_filter.mp (List.mem_of_getLast? h)).1

/-- A name that is contributed has a last contribution. -/
theorem exists_last? {name : String} {pairs : List (Field × Json)} (h : name ∈ names pairs) :
    ∃ pair, last? name pairs = some pair := by
  obtain ⟨pair, hmem, hname⟩ := List.mem_map.mp h
  have hfilter : pair ∈ pairs.filter fun pair => pair.1.name = name :=
    List.mem_filter.mpr ⟨hmem, by simpa using hname⟩
  exact ⟨_, List.getLast?_eq_some_getLast (List.ne_nil_of_mem hfilter)⟩

theorem eraseDups_concat (l : List String) (name : String) :
    (l ++ [name]).eraseDups = if name ∈ l then l.eraseDups else l.eraseDups ++ [name] := by
  rw [List.eraseDups_append]
  by_cases hmem : name ∈ l
  · simp [List.removeAll, hmem]
  · simp [List.removeAll, hmem, List.eraseDups_cons]

/-- Without repetitions, no name stands twice. -/
theorem nodup_eraseDups (l : List String) : l.eraseDups.Nodup := by
  induction l using List.reverseRecOn with
  | nil => exact List.nodup_nil
  | append_singleton l name ih =>
    rw [eraseDups_concat]
    split
    · exact ih
    · rename_i hnew
      rw [List.nodup_append]
      refine ⟨ih, List.nodup_singleton name, ?_⟩
      rintro other hmem _ hlast rfl
      exact hnew (List.mem_singleton.mp hlast ▸ List.mem_eraseDups.mp hmem)

/-- What stays has each name once, in the order of first occurrence. -/
theorem names_kept (pairs : List (Field × Json)) :
    names (kept pairs) = (names pairs).eraseDups := by
  rw [names, kept, List.map_filterMap]
  conv_rhs => rw [← List.filterMap_some (l := (names pairs).eraseDups)]
  apply List.filterMap_congr
  intro name hmem
  obtain ⟨pair, hpair⟩ := exists_last? (List.mem_eraseDups.mp hmem)
  rw [hpair, Option.map_some, name_of_last? hpair]

theorem nodup_names_kept (pairs : List (Field × Json)) : (names (kept pairs)).Nodup := by
  rw [names_kept]
  exact nodup_eraseDups _

/-- The members of a merge have different names. -/
theorem nodup_names_merge (pairs : List (Field × Json)) :
    ((merge pairs).members.map Prod.fst).Nodup := by
  have hnames : (merge pairs).members.map Prod.fst = names (kept pairs) :=
    List.map_map
  rw [hnames]
  exact nodup_names_kept pairs

/-- What stays is contributed. -/
theorem mem_of_mem_kept {pairs : List (Field × Json)} {pair : Field × Json}
    (h : pair ∈ kept pairs) : pair ∈ pairs := by
  obtain ⟨name, -, hlast⟩ := List.mem_filterMap.mp h
  exact mem_of_last? hlast

/-- A contribution, or the one that takes its place. -/
def replace (pair old : Field × Json) : Field × Json :=
  if old.1.name = pair.1.name then pair else old

/-- Puts a contribution in the place of the one with the same name, or at the end. -/
def settle (pair : Field × Json) (pairs : List (Field × Json)) : List (Field × Json) :=
  if pair.1.name ∈ names pairs then pairs.map (replace pair) else pairs ++ [pair]

/-- A contribution with a new name takes no place. -/
theorem map_replace_of_not_mem {pair : Field × Json} {pairs : List (Field × Json)}
    (h : pair.1.name ∉ names pairs) : pairs.map (replace pair) = pairs := by
  conv_rhs => rw [← List.map_id pairs]
  apply List.map_congr_left
  intro old hmem
  rw [replace, if_neg, id]
  intro hname
  exact h (hname ▸ List.mem_map.mpr ⟨old, hmem, rfl⟩)

/-- One more contribution takes the place of the one with the same name. -/
theorem kept_concat (pairs : List (Field × Json)) (pair : Field × Json) :
    kept (pairs ++ [pair]) = settle pair (kept pairs) := by
  have hold : (names pairs).eraseDups.filterMap (fun name => last? name (pairs ++ [pair])) =
      (kept pairs).map (replace pair) := by
    rw [kept, List.map_filterMap]
    apply List.filterMap_congr
    intro name hmem
    obtain ⟨old, hlast⟩ := exists_last? (List.mem_eraseDups.mp hmem)
    rw [last?_concat, hlast, Option.map_some, replace, name_of_last? hlast]
    by_cases hname : pair.1.name = name
    · rw [if_pos hname, if_pos hname.symm]
    · rw [if_neg hname, if_neg (Ne.symm hname)]
  have hnames : names (pairs ++ [pair]) = names pairs ++ [pair.1.name] := by
    rw [names, List.map_append]
    rfl
  have hmem : pair.1.name ∈ names (kept pairs) ↔ pair.1.name ∈ names pairs := by
    rw [names_kept, List.mem_eraseDups]
  rw [kept, hnames, eraseDups_concat, settle]
  by_cases hname : pair.1.name ∈ names pairs
  · rw [if_pos hname, if_pos (hmem.mpr hname), hold]
  · have hnew : [pair.1.name].filterMap (fun name => last? name (pairs ++ [pair])) = [pair] := by
      simp [last?_concat]
    rw [if_neg hname, if_neg (mt hmem.mp hname), List.filterMap_append, hold,
      map_replace_of_not_mem (mt hmem.mp hname), hnew]

/-! ## Adding contributions one after the other -/

/-- A contribution takes the place of the one with the same name. -/
theorem settle_cons_of_eq {pair old : Field × Json} {rest : List (Field × Json)}
    (hname : old.1.name = pair.1.name) (hrest : pair.1.name ∉ names rest) :
    settle pair (old :: rest) = pair :: rest := by
  have hmem : pair.1.name ∈ names (old :: rest) := hname ▸ List.mem_cons_self
  rw [settle, if_pos hmem, List.map_cons, map_replace_of_not_mem hrest, replace, if_pos hname]

theorem settle_cons_of_ne {pair old : Field × Json} (rest : List (Field × Json))
    (hname : old.1.name ≠ pair.1.name) :
    settle pair (old :: rest) = old :: settle pair rest := by
  have hmem : pair.1.name ∈ names (old :: rest) ↔ pair.1.name ∈ names rest := by
    rw [names, List.map_cons, List.mem_cons]
    exact or_iff_right (Ne.symm hname)
  rw [settle, settle]
  by_cases hrest : pair.1.name ∈ names rest
  · rw [if_pos (hmem.mpr hrest), if_pos hrest, List.map_cons, replace, if_neg hname]
  · rw [if_neg (mt hmem.mp hrest), if_neg hrest, List.cons_append]

/-- Where names do not repeat, adding a field settles its contribution. -/
theorem push_ofPairs {pairs : List (Field × Json)} (hnodup : (names pairs).Nodup)
    (pair : Field × Json) :
    (ofPairs pairs).push pair.1 pair.2 = ofPairs (settle pair pairs) := by
  induction pairs with
  | nil => rfl
  | cons old rest ih =>
    rw [names, List.map_cons, List.nodup_cons] at hnodup
    by_cases hname : old.1.name = pair.1.name
    · rw [settle_cons_of_eq hname (hname ▸ hnodup.1)]
      simp only [push, ofPairs, List.map_cons, put, Json.put, if_pos hname]
    · obtain ⟨hfields, hmembers⟩ := Expansion.mk.inj (ih hnodup.2)
      rw [settle_cons_of_ne rest hname]
      simp only [push, ofPairs, List.map_cons, put, Json.put, if_neg hname]
      rw [← hfields, ← hmembers]
      rfl

/-- **Merging.** Contributions that are added one after the other are merged. -/
theorem pushAll_eq_merge (pairs : List (Field × Json)) :
    Expansion.pushAll {} pairs = merge pairs := by
  induction pairs using List.reverseRecOn with
  | nil => rfl
  | append_singleton pairs pair ih =>
    rw [pushAll_append, ih, merge, merge, kept_concat, ← push_ofPairs (nodup_names_kept pairs)]
    rfl

end Expansion

/-- **Structures merge.** A declaration expands, from any stack, to the merge of what its fields
that are not skipped contribute in the order in which they are declared: each name stands once,
where it was contributed first, with the field and the example that were contributed last. -/
theorem expand_merges {loader : Loader} {id : Nat} {w w' : Walker} {e : Expansion} :
    w.expand loader id = some (some e, w') ↔
      ∃ d fields pairs w₁, w.session.catalog.decls[id]? = some d ∧ d.body = .struct fields ∧
        Walk.Collects loader (Walk.unbounded loader) d (fields.filter (!·.skip)) (Walk.start d w)
          pairs w₁ ∧ e = Expansion.merge pairs ∧ w' = w₁.leave := by
  simp only [Walk.expand_iff_collects, Expansion.pushAll_eq_merge]

end ApiDocs
