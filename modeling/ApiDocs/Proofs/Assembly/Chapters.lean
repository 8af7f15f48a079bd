import ApiDocs.Proofs.Assembly.Reading
import ApiDocs.Proofs.Catalog.Built

/-!
# The documents of each file

`Session.chapters` lists what a run makes: a chapter for each scanned file, with what was read from
the file and the documents made of it. The documents of a run are those of the chapters, one after
the other. The chapters are in the order of their paths, and the documents of a chapter are numbered
from 1 and have a title and a URL (`assemble_shape`).
-/

namespace ApiDocs

namespace Assembly

open Session

/-! ## Reading a declaration -/

/-- What comes out of reading a declaration without a failure: the general document changes, or the
document of an operation is left out or added, or nothing happens at a module. -/
theorem visit_cases {loader : Loader} {v : Visit} {p p' : Progress} {s s' : Session}
    (h : visit loader v p s = (.ok p', s')) :
    (∃ lines general, v.decl = .general lines ∧
      applyLines ⟨loader, v.unit⟩ "" lines p.general s = (.ok general, s') ∧
        p' = { p with general := general }) ∨
    (∃ name lines doc s₁, v.decl = .operation name lines ∧
      applyLines ⟨loader, v.unit⟩ name lines p.general.seeded s = (.ok doc, s₁) ∧
        Steps loader s₁ s' ∧ doc.isIncomplete = true ∧ p' = p) ∨
    (∃ name lines doc s₁, v.decl = .operation name lines ∧
      applyLines ⟨loader, v.unit⟩ name lines p.general.seeded s = (.ok doc, s₁) ∧
        Steps loader s₁ s' ∧ doc.isIncomplete = false ∧
          p' = { p with docs := p.docs ++ [{ doc with order := p.order }], order := p.order + 1 }) ∨
    (∃ path, v.decl = .module path ∧ p' = p) := by
  unfold visit at h
  simp only at h
  split at h
  · rename_i lines hdecl
    split at h
    · rename_i general s₁ happly
      cases h
      exact Or.inl ⟨lines, general, hdecl, happly, rfl⟩
    · cases h
  · rename_i name lines hdecl
    split at h
    · rename_i doc s₁ happly
      unfold finish at h
      by_cases hdoc : doc.isIncomplete = true
      · simp only [hdoc, if_true] at h
        cases h
        have hnote : Steps loader s₁ (s₁.note [.incomplete name]) := .single (.note s₁ _ rfl)
        exact Or.inr (Or.inl ⟨name, lines, doc, s₁, hdecl, happly, hnote, hdoc, rfl⟩)
      · have hcomplete : doc.isIncomplete = false := by simpa using hdoc
        simp only [hcomplete] at h
        cases h
        exact Or.inr (Or.inr (Or.inl ⟨name, lines, doc, s₁, hdecl, happly,
          .single (.note s₁ _ rfl), hcomplete, rfl⟩))
    · cases h
  · rename_i path hdecl
    cases h
    exact Or.inr (Or.inr (Or.inr ⟨path, hdecl, rfl⟩))

/-- The documents that were added between two moments. -/
def added (p p' : Progress) : List Document :=
  p'.docs.drop p.docs.length

/-- Whether a document has a title and a URL. -/
def IsTitled (doc : Document) : Prop :=
  doc.title ≠ "" ∧ doc.request.url ≠ ""

/-- A document that is complete has a title and a URL. -/
theorem isTitled_of_isIncomplete_eq_false {doc : Document} (h : doc.isIncomplete = false) :
    IsTitled doc := by
  rw [Document.isIncomplete, Bool.or_eq_false_iff] at h
  constructor
  · rintro htitle
    rw [htitle] at h
    exact absurd h.1 (by decide)
  · rintro hurl
    rw [hurl] at h
    exact absurd h.2 (by decide)

/-- Whether documents were added at the end with the next numbers, each with a title and a URL. -/
structure Numbered (p p' : Progress) (docs : List Document) : Prop where
  /-- The documents are added at the end. -/
  docs_eq : p'.docs = p.docs ++ docs
  /-- They have the next numbers. -/
  orders : docs.map Document.order =
    (List.range docs.length).map fun k => p.order + UInt32.ofNat k
  /-- The numbers go on behind them. -/
  next : p'.order = p.order + UInt32.ofNat docs.length
  /-- They are complete. -/
  titled : ∀ doc ∈ docs, IsTitled doc

/-- Where no documents are added, the next number stays the same. -/
theorem Numbered.nil {p p' : Progress} (hdocs : p'.docs = p.docs) (horder : p'.order = p.order) :
    Numbered p p' [] :=
  ⟨by rw [hdocs, List.append_nil], rfl, horder.trans (UInt32.add_zero p.order).symm, nofun⟩

/-- Documents that are added later go on with the numbers. -/
theorem Numbered.append {p p' p'' : Progress} {docs docs' : List Document}
    (h : Numbered p p' docs) (h' : Numbered p' p'' docs') : Numbered p p'' (docs ++ docs') := by
  refine ⟨?_, ?_, ?_, ?_⟩
  · rw [h'.docs_eq, h.docs_eq, List.append_assoc]
  · rw [List.map_append, h.orders, h'.orders, h.next, List.length_append, List.range_add,
      List.map_append, List.map_map]
    congr 1
    refine List.map_congr_left fun k _ => ?_
    rw [Function.comp_apply, UInt32.ofNat_add, UInt32.add_assoc]
  · rw [h'.next, h.next, List.length_append, UInt32.ofNat_add, UInt32.add_assoc]
  · intro doc hdoc
    rcases List.mem_append.mp hdoc with hold | hnew
    · exact h.titled doc hold
    · exact h'.titled doc hnew

/-- At the start of a file documents are numbered from 1 on. -/
theorem Numbered.orders_of_start {p p' : Progress} {docs : List Document}
    (h : Numbered p p' docs) (hstart : p.order = 1) :
    docs.map Document.order = (List.range' 1 docs.length).map UInt32.ofNat := by
  rw [h.orders, hstart, List.range'_eq_map_range, List.map_map]
  refine List.map_congr_left fun k _ => ?_
  rw [Function.comp_apply, UInt32.ofNat_add]
  rfl

/-- Numbers of 32 bits do not wrap around in a list that is short enough. -/
theorem toNat_orders {docs : List Document}
    (h : docs.map Document.order = (List.range' 1 docs.length).map UInt32.ofNat)
    (hlength : docs.length < Decimal.twoTo 32) :
    docs.map (fun doc => doc.order.toNat) = List.range' 1 docs.length := by
  calc docs.map (fun doc => doc.order.toNat)
      = (docs.map Document.order).map UInt32.toNat := by
        rw [List.map_map]
        rfl
    _ = (List.range' 1 docs.length).map fun k => (UInt32.ofNat k).toNat := by
        rw [h, List.map_map]
        rfl
    _ = (List.range' 1 docs.length).map id := by
        refine List.map_congr_left fun k hk => UInt32.toNat_ofNat_of_lt' ?_
        have hle := (List.mem_range'_1.mp hk).2
        exact Nat.lt_of_le_of_lt (Nat.lt_one_add_iff.mp hle) hlength
    _ = List.range' 1 docs.length := List.map_id _

/-- Reading a declaration adds documents with the next numbers. -/
theorem visit_numbered {loader : Loader} {v : Visit} {p p' : Progress} {s s' : Session}
    (h : visit loader v p s = (.ok p', s')) : Numbered p p' (added p p') := by
  rcases visit_cases h with ⟨lines, general, -, -, rfl⟩ | ⟨name, lines, doc, s₁, -, -, -, -, rfl⟩ |
    ⟨name, lines, doc, s₁, -, -, -, hcomplete, rfl⟩ | ⟨path, -, rfl⟩
  · rw [added, List.drop_length]
    exact .nil rfl rfl
  · rw [added, List.drop_length]
    exact .nil rfl rfl
  · rw [added, List.drop_left]
    refine ⟨rfl, congrArg (fun n => [n]) (UInt32.add_zero p.order).symm, rfl, ?_⟩
    intro d hd
    rw [List.mem_singleton.mp hd]
    exact isTitled_of_isIncomplete_eq_false hcomplete
  · rw [added, List.drop_length]
    exact .nil rfl rfl

/-! ## Reading a file -/

/-- A document that was made, with what was read from the file before its operation and the general
document at that time. -/
structure Made where
  /-- What was read before. -/
  earlier : List Visit
  /-- The operation. -/
  visit : Visit
  /-- The general document. -/
  general : Document
  /-- The document of the operation. -/
  doc : Document

/-- The documents that are made of declarations that are read one after the other, after others were
read. -/
def made (loader : Loader) : List Visit → List Visit → Progress → Session → List Made
  | _, [], _, _ => []
  | earlier, v :: rest, p, s =>
    match visit loader v p s with
    | (.ok p', s') =>
      (added p p').map (fun doc => ⟨earlier, v, p.general, doc⟩) ++
        made loader (earlier ++ [v]) rest p' s'
    | (.error _, _) => []

variable {loader : Loader}

/-- Where declarations are read without a failure, the first one is, and then the others are. -/
theorem visitAll_cons_ok {v : Visit} {rest : List Visit} {p p' : Progress} {s s' : Session}
    (h : visitAll loader (v :: rest) p s = (.ok p', s')) :
    ∃ p₁ s₁, visit loader v p s = (.ok p₁, s₁) ∧ visitAll loader rest p₁ s₁ = (.ok p', s') := by
  rw [visitAll] at h
  rcases hvisit : visit loader v p s with ⟨e | p₁, s₁⟩
  · rw [hvisit] at h
    cases h
  · rw [hvisit] at h
    exact ⟨p₁, s₁, rfl, h⟩

theorem made_cons {earlier rest : List Visit} {v : Visit} {p p₁ : Progress} {s s₁ : Session}
    (h : visit loader v p s = (.ok p₁, s₁)) :
    made loader earlier (v :: rest) p s =
      (added p p₁).map (fun doc => ⟨earlier, v, p.general, doc⟩) ++
        made loader (earlier ++ [v]) rest p₁ s₁ := by
  rw [made, h]

/-- Reading declarations adds the documents that are made of them, with the next numbers. -/
theorem visitAll_numbered {vs : List Visit} (earlier : List Visit) {p p' : Progress}
    {s s' : Session} (h : visitAll loader vs p s = (.ok p', s')) :
    Numbered p p' ((made loader earlier vs p s).map Made.doc) := by
  induction vs generalizing earlier p s with
  | nil =>
    cases h
    exact .nil rfl rfl
  | cons v rest ih =>
    obtain ⟨p₁, s₁, hvisit, hrest⟩ := visitAll_cons_ok h
    have hfirst := visit_numbered hvisit
    rw [made_cons hvisit, List.map_append, List.map_map]
    have hdocs : (added p p₁).map (Made.doc ∘ fun doc => ⟨earlier, v, p.general, doc⟩) =
        added p p₁ := List.map_id _
    rw [hdocs]
    exact hfirst.append (ih (earlier ++ [v]) hrest)

/-- What was read before the operation of a document, the operation itself and what comes after it
are what is read. -/
theorem visits_of_mem_made {vs earlier : List Visit} {p : Progress} {s : Session} {x : Made}
    (h : x ∈ made loader earlier vs p s) :
    ∃ before after, x.earlier = earlier ++ before ∧ vs = before ++ x.visit :: after := by
  induction vs generalizing earlier p s with
  | nil => exact nomatch h
  | cons v rest ih =>
    rw [made] at h
    split at h
    · rcases List.mem_append.mp h with hfirst | hrest
      · obtain ⟨doc, -, rfl⟩ := List.mem_map.mp hfirst
        exact ⟨[], rest, (List.append_nil _).symm, rfl⟩
      · obtain ⟨before, after, hearlier, rfl⟩ := ih hrest
        refine ⟨v :: before, after, ?_, rfl⟩
        rw [hearlier, List.append_assoc]
        rfl
    · exact nomatch h

/-! ## Reading all files -/

/-- What was read from a file, and the documents made of it. -/
structure Chapter where
  /-- The path of the file. -/
  path : FilePath
  /-- What was read. -/
  visits : List Visit
  /-- The documents, each with how it was made. -/
  made : List Made

/-- The documents of a chapter. -/
def Chapter.docs (c : Chapter) : List Document :=
  c.made.map Made.doc

/-- The chapters of files that are read one after the other. -/
def chapters (loader : Loader) : List (List Nat) → List Document → Session → List Chapter
  | [], _, _ => []
  | [] :: rest, docs, s => chapters loader rest docs s
  | (unit :: others) :: rest, docs, s =>
    let units := unit :: others
    let path := s.catalog.pathOf unit
    let vs := visits s.catalog units units.length unit
    let s := s.note [.reading path]
    let chapter : Chapter := ⟨path, vs, made loader [] vs { docs := docs } s⟩
    match visitAll loader vs { docs := docs } s with
    | (.ok p, s) => chapter :: chapters loader rest p.docs s
    | (.error _, _) => [chapter]

/-- Where nothing is wrong, the first file is read, and then the others. -/
theorem assembleFiles_cons_ok {unit : Nat} {others : List Nat} {rest : List (List Nat)}
    {docs docs' : List Document} {s s' : Session} {vs : List Visit} {s₀ : Session}
    (hvs : vs = visits s.catalog (unit :: others) (unit :: others).length unit)
    (hs₀ : s₀ = s.note [.reading (s.catalog.pathOf unit)])
    (h : assembleFiles loader ((unit :: others) :: rest) docs s = (.ok docs', s')) :
    ∃ p s₁, visitAll loader vs { docs := docs } s₀ = (.ok p, s₁) ∧
      assembleFiles loader rest p.docs s₁ = (.ok docs', s') ∧
      chapters loader ((unit :: others) :: rest) docs s =
        ⟨s.catalog.pathOf unit, vs, made loader [] vs { docs := docs } s₀⟩ ::
          chapters loader rest p.docs s₁ := by
  have hcatalog : s₀.catalog = s.catalog := hs₀ ▸ rfl
  rw [assembleFiles, ← hs₀, hcatalog, ← hvs] at h
  rw [chapters, ← hs₀, ← hvs]
  rcases hall : visitAll loader vs { docs := docs } s₀ with ⟨e | p, s₁⟩
  · rw [hall] at h
    cases h
  · rw [hall] at h
    exact ⟨p, s₁, rfl, h, rfl⟩

/-- What holds of the chapter of every file that is read, from whatever the session has become by
then, holds of all chapters. -/
theorem forall₂_chapters {P : List Nat → Chapter → Prop} {groups : List (List Nat)}
    {docs docs' : List Document} {s s' : Session} (hgroups : ∀ group ∈ groups, group ≠ [])
    (h : assembleFiles loader groups docs s = (.ok docs', s'))
    (hP : ∀ unit others docs s₀ s₁ p vs, unit :: others ∈ groups → Steps loader s s₀ →
      vs = visits s₀.catalog (unit :: others) (unit :: others).length unit →
      visitAll loader vs { docs := docs } s₀ = (.ok p, s₁) →
        P (unit :: others) ⟨s₀.catalog.pathOf unit, vs, made loader [] vs { docs := docs } s₀⟩) :
    List.Forall₂ P groups (chapters loader groups docs s) := by
  induction groups generalizing docs s with
  | nil => exact .nil
  | cons group rest ih =>
    cases group with
    | nil => exact absurd rfl (hgroups [] List.mem_cons_self)
    | cons unit others =>
      obtain ⟨p, s₁, hall, hrest, hchapters⟩ := assembleFiles_cons_ok rfl rfl h
      have hnote : Steps loader s (s.note [.reading (s.catalog.pathOf unit)]) :=
        .single (.note s _ rfl)
      have hsteps := visitAll_steps loader
        (visits s.catalog (unit :: others) (unit :: others).length unit) { docs := docs }
        (s.note [.reading (s.catalog.pathOf unit)])
      rw [hall] at hsteps
      rw [hchapters]
      refine .cons (hP unit others docs _ s₁ p _ List.mem_cons_self hnote rfl hall) ?_
      refine ih (fun group hmem => hgroups group (List.mem_cons_of_mem _ hmem)) hrest ?_
      intro unit others docs s₀ s₂ p vs hmem hsteps'
      exact hP unit others docs s₀ s₂ p vs (List.mem_cons_of_mem _ hmem)
        ((hnote.trans hsteps).trans hsteps')

/-- The documents are those of the chapters. -/
theorem docs_eq_flatMap_chapters {groups : List (List Nat)} {docs docs' : List Document}
    {s s' : Session} (h : assembleFiles loader groups docs s = (.ok docs', s')) :
    docs' = docs ++ (chapters loader groups docs s).flatMap Chapter.docs := by
  induction groups generalizing docs s with
  | nil =>
    cases h
    exact (List.append_nil _).symm
  | cons group rest ih =>
    cases group with
    | nil => exact ih h
    | cons unit others =>
      obtain ⟨p, s₁, hall, hrest, hchapters⟩ := assembleFiles_cons_ok rfl rfl h
      have hdocs := (visitAll_numbered [] hall).docs_eq
      rw [hchapters, List.flatMap_cons, ih hrest, hdocs, List.append_assoc]
      rfl

/-! ## The order of files -/

/-- An element of the second of two related lists is related to one of the first. -/
theorem exists_left_of_mem {α β : Type} {P : α → β → Prop} {l : List α} {l' : List β}
    (h : List.Forall₂ P l l') {b : β} (hb : b ∈ l') : ∃ a ∈ l, P a b := by
  induction h with
  | nil => exact nomatch hb
  | cons hfirst hrest ih =>
    rcases List.mem_cons.mp hb with rfl | hmem
    · exact ⟨_, List.mem_cons_self, hfirst⟩
    · obtain ⟨a, ha, hP⟩ := ih hmem
      exact ⟨a, List.mem_cons_of_mem _ ha, hP⟩

/-- What relates two lists element by element carries the order of the first one over. -/
theorem pairwise_of_forall₂ {α β : Type} {P : α → β → Prop} {R : α → α → Prop} {S : β → β → Prop}
    {l : List α} {l' : List β} (h : List.Forall₂ P l l') (hl : l.Pairwise R)
    (hRS : ∀ a b a' b', P a a' → P b b' → R a b → S a' b') : l'.Pairwise S := by
  induction h with
  | nil => exact .nil
  | cons hfirst hrest ih =>
    obtain ⟨hhead, htail⟩ := List.pairwise_cons.mp hl
    refine List.pairwise_cons.mpr ⟨fun b' hb' => ?_, ih htail⟩
    obtain ⟨b, hb, hP⟩ := exists_left_of_mem hrest hb'
    exact hRS _ b _ b' hfirst hP (hhead b hb)

/-- Whether groups hold the units of one file each, with the files in strictly ascending order. -/
structure InOrder (c : Catalog) (groups : List (List Nat)) : Prop where
  /-- No group is empty. -/
  ne_nil : ∀ group ∈ groups, group ≠ []
  /-- The units of a group have the same path. -/
  same : ∀ group ∈ groups, ∀ a ∈ group, ∀ b ∈ group, (c.pathOf a).same (c.pathOf b)
  /-- Paths of later groups come after those of earlier ones. -/
  lt : groups.Pairwise fun group group' =>
    ∀ a ∈ group, ∀ b ∈ group', (c.pathOf a).compare (c.pathOf b) = .lt

/-- A unit goes to the group of the next one if it is in the same file. -/
theorem InOrder.cons_same {c : Catalog} {unit next : Nat} {group : List Nat}
    {groups : List (List Nat)} (h : InOrder c ((next :: group) :: groups))
    (hsame : (c.pathOf unit).same (c.pathOf next)) :
    InOrder c ((unit :: next :: group) :: groups) := by
  have hnext : ∀ b ∈ next :: group, (c.pathOf unit).same (c.pathOf b) := fun b hb =>
    FilePath.same_trans hsame (h.same _ List.mem_cons_self next List.mem_cons_self b hb)
  obtain ⟨hlater, hgroups⟩ := List.pairwise_cons.mp h.lt
  refine ⟨?_, ?_, List.pairwise_cons.mpr ⟨?_, hgroups⟩⟩
  · intro other hother
    rcases List.mem_cons.mp hother with rfl | hmem
    · exact List.cons_ne_nil _ _
    · exact h.ne_nil other (List.mem_cons_of_mem _ hmem)
  · intro other hother a ha b hb
    rcases List.mem_cons.mp hother with rfl | hmem
    · rcases List.mem_cons.mp ha with rfl | hfirst
      · rcases List.mem_cons.mp hb with rfl | hsecond
        · exact beq_self_eq_true _
        · exact hnext b hsecond
      · rcases List.mem_cons.mp hb with rfl | hsecond
        · exact FilePath.same_comm.mp (hnext a hfirst)
        · exact h.same _ List.mem_cons_self a hfirst b hsecond
    · exact h.same other (List.mem_cons_of_mem _ hmem) a ha b hb
  · intro other hother a ha b hb
    rcases List.mem_cons.mp ha with rfl | hold
    · have heq := FilePath.compare_eq_iff.mpr hsame
      exact Std.TransCmp.lt_of_eq_of_lt heq (hlater other hother next List.mem_cons_self b hb)
    · exact hlater other hother a hold b hb

/-- A unit is a group of its own if its file comes before all others. -/
theorem InOrder.cons_apart {c : Catalog} {unit : Nat} {groups : List (List Nat)}
    (h : InOrder c groups)
    (hlt : ∀ group ∈ groups, ∀ b ∈ group, (c.pathOf unit).compare (c.pathOf b) = .lt) :
    InOrder c ([unit] :: groups) := by
  refine ⟨?_, ?_, List.pairwise_cons.mpr ⟨?_, h.lt⟩⟩
  · intro other hother
    rcases List.mem_cons.mp hother with rfl | hmem
    · exact List.cons_ne_nil _ _
    · exact h.ne_nil other hmem
  · intro other hother a ha b hb
    rcases List.mem_cons.mp hother with rfl | hmem
    · rw [List.mem_singleton.mp ha, List.mem_singleton.mp hb]
      exact beq_self_eq_true _
    · exact h.same other hmem a ha b hb
  · intro other hother a ha b hb
    rw [List.mem_singleton.mp ha]
    exact hlt other hother b hb

/-- Grouping sorted units by file gives the files in strictly ascending order. -/
theorem groupByFile_inOrder {c : Catalog} {units : List Nat}
    (h : units.Pairwise fun a b => (c.pathOf a).notAfter (c.pathOf b)) :
    InOrder c (groupByFile c units) := by
  induction units with
  | nil => exact ⟨nofun, nofun, .nil⟩
  | cons unit rest ih =>
    obtain ⟨hunit, hrest⟩ := List.pairwise_cons.mp h
    have hgroups := ih hrest
    cases rest with
    | nil =>
      have hnone : InOrder c [] := ⟨nofun, nofun, .nil⟩
      exact hnone.cons_apart nofun
    | cons next others =>
      obtain ⟨group, groups, heq⟩ := exists_groupByFile_cons c next others
      have hflat := flatten_groupByFile c (next :: others)
      rw [heq] at hgroups hflat
      by_cases hsame : (c.pathOf unit).same (c.pathOf next)
      · rw [groupByFile_cons_of_same heq hsame]
        exact hgroups.cons_same hsame
      · rw [groupByFile_cons_of_not_same heq hsame]
        refine hgroups.cons_apart fun other hother b hb => ?_
        have hmem : b ∈ next :: others := by
          rw [← hflat]
          exact List.mem_flatten.mpr ⟨other, hother, hb⟩
        have hle := FilePath.notAfter_iff.mp (hunit b hmem)
        rw [Ordering.isLE_iff_eq_lt_or_eq_eq] at hle
        refine hle.resolve_right fun heqb => hsame ?_
        -- the next unit is between two units of this file
        have hbetween : (c.pathOf next).notAfter (c.pathOf b) := by
          rcases List.mem_cons.mp hmem with rfl | hlater
          · exact FilePath.notAfter_of_same (beq_self_eq_true _)
          · exact (List.pairwise_cons.mp hrest).1 b hlater
        have hback := FilePath.notAfter_trans hbetween
          (FilePath.notAfter_of_same (FilePath.same_comm.mp (FilePath.compare_eq_iff.mp heqb)))
        exact FilePath.same_of_notAfter (hunit next List.mem_cons_self) hback

theorem files_inOrder (c : Catalog) : InOrder c (files c) :=
  groupByFile_inOrder c.scannedUnits_pairwise

/-- The units in the files of a catalog are the scanned ones. -/
theorem mem_files_iff {c : Catalog} {unit : Nat} :
    (∃ group ∈ files c, unit ∈ group) ↔ unit ∈ c.scanned := by
  rw [← List.mem_flatten, files, flatten_groupByFile, Catalog.scannedUnits, List.mem_mergeSort]

end Assembly

/-! ## The shape of a run -/

theorem Session.Grows.pathOf_eq {s s' : Session} (h : Grows s s') {id : Nat}
    (hid : id < s.catalog.units.length) : s'.catalog.pathOf id = s.catalog.pathOf id := by
  obtain ⟨more, hmore⟩ := h.units
  rw [Catalog.pathOf, Catalog.pathOf, ← hmore, List.getElem?_append_left hid]

namespace Session

/-- What a run makes of each scanned file. -/
def chapters (loader : Loader) (s : Session) : List Assembly.Chapter :=
  Assembly.chapters loader (Assembly.files s.catalog) [] s.start

/-- A run without failures reads all files, one step after the other. -/
theorem steps_of_assemble_ok {loader : Loader} {s last : Session} {docs : List Document}
    (h : s.assemble loader = (.ok docs, last)) :
    ∃ s', Assembly.assembleFiles loader (Assembly.files s.catalog) [] s.start = (.ok docs, s') ∧
      Steps loader s s.start ∧ Steps loader s.start s' ∧ Steps loader s' last := by
  have hcatalog : s.start.catalog = s.catalog := rfl
  have hsteps := Assembly.assembleFiles_steps loader (Assembly.files s.catalog) [] s.start
  rw [assemble, hcatalog] at h
  rcases hrun : Assembly.assembleFiles loader (Assembly.files s.catalog) [] s.start with
    ⟨e | docs', s'⟩
  · rw [hrun] at h
    cases h
  · rw [hrun] at h hsteps
    cases h
    exact ⟨s', rfl, .single (.note s _ rfl), hsteps, .single (.note s' _ rfl)⟩

/-- Documents come from reading the files of the catalog. -/
theorem assembleFiles_of_assemble_ok {loader : Loader} {s : Session} {docs : List Document}
    (h : (s.assemble loader).1 = .ok docs) :
    ∃ s', Assembly.assembleFiles loader (Assembly.files s.catalog) [] s.start = (.ok docs, s') := by
  have hrun : s.assemble loader = (.ok docs, (s.assemble loader).2) := Prod.ext h rfl
  obtain ⟨s', hfiles, -⟩ := steps_of_assemble_ok hrun
  exact ⟨s', hfiles⟩

/-- Whether the scanned units are units. -/
def ScannedAreUnits (s : Session) : Prop :=
  ∀ id ∈ s.catalog.scanned, id < s.catalog.units.length

/-- Scanned units are known when more of them are added. -/
theorem ScannedAreUnits.addScanned {s : Session} (h : s.ScannedAreUnits) (us : List SourceUnit) :
    (s.addScanned us).ScannedAreUnits := by
  intro id hid
  have hunits : (s.addScanned us).catalog.units = s.catalog.units ++ us :=
    Catalog.units_addScanned _ us
  have hscanned : (s.addScanned us).catalog.scanned =
      s.catalog.scanned ++ List.range' s.catalog.units.length us.length :=
    Catalog.scanned_addScanned _ us
  rw [hscanned] at hid
  rw [hunits, List.length_append]
  rcases List.mem_append.mp hid with hold | hnew
  · have := h id hold
    omega
  · have := (List.mem_range'_1.mp hnew).2
    omega

/-- Scanned units stay known while a session grows. -/
theorem ScannedAreUnits.grows {s s' : Session} (h : s.ScannedAreUnits) (hgrows : Grows s s') :
    s'.ScannedAreUnits := by
  intro id hid
  rw [hgrows.scanned] at hid
  exact Nat.lt_of_lt_of_le (h id hid) hgrows.units.length_le

/-- In a session that was built, all scanned units are known. -/
theorem Built.scannedAreUnits {s : Session} (h : Built s) : s.ScannedAreUnits := by
  induction h with
  | empty => exact nofun
  | addScanned us _ ih => exact ih.addScanned us
  | index t folder root _ ih =>
    exact index_induction (P := ScannedAreUnits) (fun _ _ _ h => h)
      (fun s source us _ h => ScannedAreUnits.addScanned (s := s.markRead source.path) h us) ih t
      folder root
  | @ensure s loader module _ ih => exact ih.grows (ensure_changes loader module s).grows

end Session

/-- **Shape of a run.** The documents of a run without failures are those of its chapters, one after
the other. There is a chapter for each path of a scanned file, in strictly ascending order. Its
documents come from that file, are numbered from 1 on, and have a title and a URL. Numbers have 32
bits; they are the places in the chapter as long as it has fewer than 2 ^ 32 documents. -/
theorem assemble_shape {loader : Loader} {s : Session} {docs : List Document}
    (hs : Session.Built s) (hok : (s.assemble loader).1 = .ok docs) :
    docs = (s.chapters loader).flatMap Assembly.Chapter.docs ∧
    ((s.chapters loader).Pairwise fun a b => a.path.compare b.path = .lt) ∧
    (∀ path, (∃ c ∈ s.chapters loader, c.path.same path) ↔
      ∃ unit ∈ s.catalog.scanned, s.catalog.isIn path unit) ∧
    ∀ c ∈ s.chapters loader,
      (∀ x ∈ c.made, s.catalog.isIn c.path x.visit.unit) ∧
      c.docs.map Document.order = (List.range' 1 c.docs.length).map UInt32.ofNat ∧
      (c.docs.length < Decimal.twoTo 32 →
        c.docs.map (fun doc => doc.order.toNat) = List.range' 1 c.docs.length) ∧
      ∀ doc ∈ c.docs, doc.title ≠ "" ∧ doc.request.url ≠ "" := by
  obtain ⟨s', hrun⟩ := Session.assembleFiles_of_assemble_ok hok
  have horder := Assembly.files_inOrder s.catalog
  have hunits := hs.scannedAreUnits
  have hchapters := Assembly.forall₂_chapters
    (P := fun group c => ∃ unit ∈ group, c.path = s.catalog.pathOf unit ∧
      (∀ x ∈ c.made, x.visit.unit ∈ group) ∧
      c.docs.map Document.order = (List.range' 1 c.docs.length).map UInt32.ofNat ∧
      ∀ doc ∈ c.docs, Assembly.IsTitled doc) horder.ne_nil hrun ?_
  · refine ⟨Assembly.docs_eq_flatMap_chapters hrun, ?_, fun path => ⟨?_, ?_⟩, ?_⟩
    · refine Assembly.pairwise_of_forall₂ hchapters horder.lt ?_
      rintro group group' c c' ⟨unit, hunit, hpath, -⟩ ⟨unit', hunit', hpath', -⟩ hlt
      rw [hpath, hpath']
      exact hlt unit hunit unit' hunit'
    · rintro ⟨c, hc, hsame⟩
      obtain ⟨group, hgroup, unit, hunit, hpath, -⟩ := Assembly.exists_left_of_mem hchapters hc
      rw [hpath] at hsame
      exact ⟨unit, Assembly.mem_files_iff.mp ⟨group, hgroup, hunit⟩, hsame⟩
    · rintro ⟨unit, hunit, hin⟩
      obtain ⟨group, hgroup, hmem⟩ := Assembly.mem_files_iff.mpr hunit
      obtain ⟨c, hc, unit', hunit', hpath, -⟩ := Assembly.exists_left_of_mem hchapters.flip hgroup
      refine ⟨c, hc, ?_⟩
      rw [hpath]
      exact FilePath.same_trans (horder.same group hgroup unit' hunit' unit hmem) hin
    · intro c hc
      obtain ⟨group, hgroup, unit, hunit, hpath, hmade, hnumbers, htitled⟩ :=
        Assembly.exists_left_of_mem hchapters hc
      refine ⟨fun x hx => ?_, hnumbers, Assembly.toNat_orders hnumbers, htitled⟩
      rw [Catalog.isIn, hpath]
      exact horder.same group hgroup _ (hmade x hx) unit hunit
  · intro unit others docs s₀ s₁ p vs hgroup hsteps hvs hall
    have hid : unit < s.catalog.units.length :=
      hunits unit (Assembly.mem_files_iff.mp ⟨_, hgroup, List.mem_cons_self⟩)
    have hnumbered := Assembly.visitAll_numbered [] hall
    refine ⟨unit, List.mem_cons_self, hsteps.grows.pathOf_eq hid, ?_,
      hnumbered.orders_of_start rfl, hnumbered.titled⟩
    intro x hx
    obtain ⟨before, after, -, hsplit⟩ := Assembly.visits_of_mem_made hx
    have hmem : x.visit ∈ vs := by
      rw [hsplit]
      exact List.mem_append_right _ List.mem_cons_self
    rw [hvs] at hmem
    exact Assembly.unit_mem_of_mem_visits List.mem_cons_self hmem

/-- Two files; the first has an operation without a URL between two that have one. -/
def twoFiles : List SourceUnit :=
  [{ path := ⟨"a.rs"⟩, module := "crate::a",
      decls := [.operation "first" ["first", "@url GET /first"], .operation "draft" ["draft"],
        .operation "second" ["second", "@url GET /second"]] },
    { path := ⟨"b.rs"⟩, module := "crate::b",
      decls := [.operation "third" ["third", "@url GET /third"]] }]

/-- Two files with three operations: the numbers start again with the second file. -/
theorem assemble_shape_twoFiles :
    Session.Built (({} : Session).addScanned twoFiles) ∧
    ∃ docs, ((({} : Session).addScanned twoFiles).assemble Loader.none).1 = .ok docs ∧
      docs = ((({} : Session).addScanned twoFiles).chapters Loader.none).flatMap
        Assembly.Chapter.docs ∧
      docs.map Document.order = [1, 2, 1] ∧
      ∀ doc ∈ docs, doc.title ≠ "" ∧ doc.request.url ≠ "" := by
  have hbuilt : Session.Built (({} : Session).addScanned twoFiles) := .addScanned twoFiles .empty
  have hfiles : Assembly.files (({} : Session).addScanned twoFiles).catalog = [[0], [1]] := by
    rw [Assembly.files, Catalog.scannedUnits, List.mergeSort_of_pairwise (by decide +kernel)]
    decide +kernel
  have horders : ((({} : Session).addScanned twoFiles).assemble Loader.none).1.toOption.map
      (List.map Document.order) = some [1, 2, 1] := by
    have hcatalog : (({} : Session).addScanned twoFiles).start.catalog =
        (({} : Session).addScanned twoFiles).catalog := rfl
    rw [Session.assemble, hcatalog, hfiles]
    decide +kernel
  cases hrun : ((({} : Session).addScanned twoFiles).assemble Loader.none).1 with
  | error e =>
    rw [hrun] at horders
    cases horders
  | ok docs =>
    rw [hrun] at horders
    obtain ⟨hdocs, -, -, hchapters⟩ := assemble_shape hbuilt hrun
    refine ⟨hbuilt, docs, rfl, hdocs, Option.some.inj horders, ?_⟩
    intro doc hdoc
    rw [hdocs] at hdoc
    obtain ⟨c, hc, hmem⟩ := List.mem_flatMap.mp hdoc
    exact (hchapters c hc).2.2.2 doc hmem

end ApiDocs
