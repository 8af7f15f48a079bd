import ApiDocs.Proofs.Resolution.Settled

/-!
# Runs that are faithful to what they know together

Several runs with the same loader read some of the same files, each in its own order. What they know
together is a library. A run is faithful to it if the types that it has looked for stand in the
files from which it has taken their modules, and if the short keys by which it has found types lead
to the same types in all runs: each run has scanned the type and no other type has the key, or else
the run has not answered the name otherwise (`Faithful`). All this is about names in some units; of
other names nothing is asked. Names then mean the same in all of these runs (`lexicon`), and each
run is regular (`regular_of_faithful`).
-/

namespace ApiDocs.Session

/-- The units that two sessions know. -/
def allUnits (s s' : Session) : Library :=
  s.catalog.units ++ s'.catalog.units.filter fun u => decide (u ∉ s.catalog.units)

/-- The units of both sessions are among them. -/
theorem mem_allUnits {s s' : Session} {u : SourceUnit} :
    u ∈ s.allUnits s' ↔ u ∈ s.catalog.units ∨ u ∈ s'.catalog.units := by
  by_cases h : u ∈ s.catalog.units <;> simp [allUnits, h]

/-- The answers for names in a unit whose short key is that of the answer. -/
def keyedAnswers (u : SourceUnit) (s : Session) : List (String × (ModulePath × String)) :=
  (s.answers u).filter fun answer => decide (keyOf? answer.1 u = some (placeKey answer.2))

/-- Whether a session has not answered a name in a unit otherwise than with a place: neither with
another place nor with none. Names are reported as unresolved with their module alone; where a name
denotes a type in the unit, such a report is about another unit of the module. -/
def AnswersOnly (us : Library) (u : SourceUnit) (answer : String × (ModulePath × String))
    (s : Session) : Prop :=
  (∀ other ∈ s.answers u, other.1 = answer.1 → other.2 = answer.2) ∧
    (answer.1 ∈ s.misses u → (us.denoted? answer.1 u).isSome)

instance (us : Library) (u : SourceUnit) (answer : String × (ModulePath × String)) (s : Session) :
    Decidable (s.AnswersOnly us u answer) :=
  inferInstanceAs (Decidable ((∀ other ∈ s.answers u, other.1 = answer.1 → other.2 = answer.2) ∧
    (answer.1 ∈ s.misses u → (us.denoted? answer.1 u).isSome)))

/-- Whether a run is faithful to a library that it and other runs know together, as far as the names
in some units go. -/
structure Faithful (loader : Loader) (us readers : Library) (runs : List Session)
    (s : Session) : Prop where
  /-- A type that was looked for in a scanned module is that of a scanned file. -/
  scans : ∀ place ∈ s.sought readers, ∀ u ∈ us.owner? place,
    place.1 ∈ s.catalog.scannedSources.map SourceUnit.module → u ∈ s.catalog.scannedSources
  /-- A type that was looked for in a module that was loaded is that of the file that the loader
  gave, and was loaded with it. -/
  loads : ∀ module ∈ s.journal.loads,
    loader.Fits us (s.sought readers) s.catalog.units s.brought module
  /-- The type of a name that was answered by its short key was scanned in each run and alone has
  the key, or the run has not answered the name otherwise. -/
  keys : ∀ u ∈ readers, ∀ answer ∈ s.keyedAnswers u, ∀ run ∈ runs,
    run.Pins us answer.2 ∨ run.AnswersOnly us u answer

instance (loader : Loader) (us readers : Library) (runs : List Session) (s : Session) :
    Decidable (s.Faithful loader us readers runs) :=
  decidable_of_iff ((∀ place ∈ s.sought readers, ∀ u ∈ us.owner? place,
      place.1 ∈ s.catalog.scannedSources.map SourceUnit.module → u ∈ s.catalog.scannedSources) ∧
    (∀ module ∈ s.journal.loads,
      loader.Fits us (s.sought readers) s.catalog.units s.brought module) ∧
    ∀ u ∈ readers, ∀ answer ∈ s.keyedAnswers u, ∀ run ∈ runs,
      run.Pins us answer.2 ∨ run.AnswersOnly us u answer)
    ⟨fun h => ⟨h.1, h.2.1, h.2.2⟩, fun h => ⟨h.scans, h.loads, h.keys⟩⟩

/-- What names mean in some runs: the place of the type that a run has found by the short key, and
otherwise what they denote in the library. -/
def lexicon (us readers : Library) (runs : List Session) : Lexicon where
  units := us
  readers := readers
  meaning name u :=
    (((runs.flatMap (·.keyedAnswers u)).find? fun answer => answer.1 == name).map Prod.snd).or
      (us.denoted? name u)

variable {loader : Loader} {us readers : Library} {runs : List Session} {last : Session}
  {u : SourceUnit} {name : String}

/-- What a name means: either the type that a run has found by the short key, from which no run
departs, or no run has answered it by the short key, and it means what it denotes. -/
theorem meaning_cases (h : ∀ run ∈ runs, run.Faithful loader us readers runs) (hu : u ∈ readers)
    (name : String) :
    (∃ place, (lexicon us readers runs).meaning name u = some place ∧
      keyOf? name u = some (placeKey place) ∧
        ∀ run ∈ runs, run.Pins us place ∨ run.AnswersOnly us u (name, place)) ∨
    (lexicon us readers runs).meaning name u = us.denoted? name u ∧
      ∀ run ∈ runs, ∀ answer ∈ run.keyedAnswers u, answer.1 ≠ name := by
  cases hfind : (runs.flatMap (·.keyedAnswers u)).find? (fun answer => answer.1 == name) with
  | some answer =>
    have hname : answer.1 = name := by simpa using List.find?_some hfind
    obtain ⟨run, hrun, hkeyed⟩ := List.mem_flatMap.mp (List.mem_of_find?_eq_some hfind)
    have hkey := of_decide_eq_true (List.mem_filter.mp hkeyed).2
    subst hname
    refine Or.inl ⟨answer.2, ?_, hkey, (h run hrun).keys u hu answer hkeyed⟩
    simp only [lexicon, hfind, Option.map_some, Option.some_or]
  | none =>
    refine Or.inr ⟨?_, fun run hrun answer hanswer heq => ?_⟩
    · simp only [lexicon, hfind, Option.map_none, Option.none_or]
    · have hmem := List.mem_flatMap.mpr ⟨run, hrun, hanswer⟩
      exact List.find?_eq_none.mp hfind answer hmem (beq_iff_eq.mpr heq)

/-- A declared type with the short key of a type that alone has it is that type. -/
theorem Pins.eq_of_key {place other : ModulePath × String} (h : last.Pins us place)
    (hother : (us.owner? other).isSome) (hkey : placeKey other = placeKey place) :
    other = place := by
  obtain ⟨v, howner⟩ := Option.isSome_iff_exists.mp hother
  have hdeclares := List.find?_some howner
  rw [SourceUnit.declares, Bool.and_eq_true, List.any_eq_true, beq_iff_eq] at hdeclares
  obtain ⟨hmodule, t, ht, hname⟩ := hdeclares
  obtain rfl : (v.module, t.name) = other := Prod.ext hmodule (beq_iff_eq.mp hname)
  exact h.1 v (List.mem_of_find?_eq_some howner) t ht hkey

/-- **Faithful runs.** Runs that are faithful to what they know together answer names as one lexicon
says. -/
theorem regular_of_faithful (h : ∀ run ∈ runs, run.Faithful loader us readers runs)
    (hlast : last ∈ runs) (hknown : ∀ u ∈ last.catalog.units, u ∈ us) :
    last.Regular loader (lexicon us readers runs) := by
  refine ⟨hknown, (h last hlast).loads, ?_, ?_, ?_⟩
  · intro u hu answer hanswer hkey howner
    rcases meaning_cases h hu answer.1 with ⟨place, hmeaning, hplace, honly⟩ | ⟨-, hnone⟩
    · rw [hmeaning]
      rcases honly last hlast with hpins | hagrees
      · have hsame : placeKey answer.2 = placeKey place := Option.some.inj (hkey.symm.trans hplace)
        rw [hpins.eq_of_key howner hsame]
      · rw [hagrees.1 answer hanswer rfl]
    · have hkeyed : answer ∈ last.keyedAnswers u :=
        List.mem_filter.mpr ⟨hanswer, decide_eq_true hkey⟩
      exact absurd rfl (hnone last hlast answer hkeyed)
  · intro u hu answer hanswer hpins hdenoted
    rcases meaning_cases h hu answer.1 with ⟨place, hmeaning, hplace, honly⟩ | ⟨hmeaning, -⟩
    · have hagrees := (honly last hlast).resolve_left (hpins place hplace)
      rw [hmeaning, hagrees.1 answer hanswer rfl]
    · rw [hmeaning]
      exact hdenoted
  · intro u hu name hmiss hpins hdenoted
    rcases meaning_cases h hu name with ⟨place, -, hplace, honly⟩ | ⟨hmeaning, -⟩
    · -- a report of the name as unresolved is not about this unit
      have hagrees := (honly last hlast).resolve_left (hpins place hplace)
      have hsome := hagrees.2 hmiss
      rw [show us.denoted? name u = none from hdenoted] at hsome
      cases hsome
    · rw [hmeaning]
      exact hdenoted

end ApiDocs.Session
