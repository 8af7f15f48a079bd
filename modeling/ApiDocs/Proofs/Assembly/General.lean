import ApiDocs.Proofs.Assembly.Chapters
import ApiDocs.Proofs.Directive.Inheritance

/-!
# The general document of a file

Comments that belong to no operation build up the general document of their file. Every operation
after them goes on from it: it has its headers, response parameters, catalog and remark in front of
its own, and nothing else of it (`assemble_inherits_general`).
-/

namespace ApiDocs

namespace Assembly

open Session

/-- The general document of a file after declarations were read one after the other. Only general
comments change it, by their lines, with what the session has become by then. -/
inductive GeneralAfter (loader : Loader) (s : Session) : List Visit → Document → Prop where
  /-- Nothing was read. -/
  | nil : GeneralAfter loader s [] {}
  /-- A general comment was read last. -/
  | comment {vs : List Visit} {g g' : Document} {unit : Nat} {lines : List String}
    {s₁ s₂ : Session} (h : GeneralAfter loader s vs g) (hsteps : Steps loader s s₁)
    (hlines : applyLines ⟨loader, unit⟩ "" lines g s₁ = (.ok g', s₂)) :
    GeneralAfter loader s (vs ++ [⟨unit, .general lines⟩]) g'
  /-- Something else was read last. -/
  | other {vs : List Visit} {g : Document} {v : Visit} (h : GeneralAfter loader s vs g)
    (hv : ∀ lines, v.decl ≠ .general lines) : GeneralAfter loader s (vs ++ [v]) g

/-- How the document of an operation goes on from the general document at its place. -/
structure GoesOn (loader : Loader) (s : Session) (x : Made) : Prop where
  /-- The general document is that of the comments before the operation. -/
  general : GeneralAfter loader s x.earlier x.general
  /-- It is continued. -/
  inherits : x.general.Inherits x.doc
  /-- Its catalog has no slashes at its ends. -/
  trimmed_general : x.general.IsTrimmed
  /-- The catalog of the operation has no slashes at its ends. -/
  trimmed_doc : x.doc.IsTrimmed
  /-- The lines of the operation start from nothing but the headers, the response, the catalog and
  the remark of the general document. -/
  own : ∃ (name : String) (lines : List String) (doc : Document) (s₁ s₂ : Session),
    x.visit.decl = .operation name lines ∧ Steps loader s s₁ ∧
      applyLines ⟨loader, x.visit.unit⟩ name lines
          { catalog := x.general.catalog
            remark := x.general.remark
            request := { headers := x.general.request.headers }
            response := x.general.response } s₁ = (.ok doc, s₂) ∧
        x.doc = { doc with order := x.doc.order }

variable {loader : Loader} {s : Session}

/-- A declaration that is read: the general document goes on from what it was, and so does the
document of an operation. -/
theorem visit_goesOn {earlier : List Visit} {v : Visit} {p p' : Progress} {s₁ s₂ : Session}
    (hgeneral : GeneralAfter loader s earlier p.general) (htrim : p.general.IsTrimmed)
    (hsteps : Steps loader s s₁) (h : visit loader v p s₁ = (.ok p', s₂)) :
    GeneralAfter loader s (earlier ++ [v]) p'.general ∧ p'.general.IsTrimmed ∧
      p.general.Inherits p'.general ∧
        ∀ doc ∈ added p p', GoesOn loader s ⟨earlier, v, p.general, doc⟩ := by
  obtain ⟨unit, decl⟩ := v
  rcases visit_cases h with ⟨lines, general, rfl, happly, rfl⟩ |
    ⟨name, lines, doc, s₃, hdecl, happly, -, hincomplete, rfl⟩ |
    ⟨name, lines, doc, s₃, rfl, happly, -, hcomplete, rfl⟩ | ⟨path, rfl, rfl⟩
  · obtain ⟨hinherits, htrim'⟩ := applyLines_inherits htrim happly
    refine ⟨hgeneral.comment hsteps happly, htrim', hinherits, ?_⟩
    rw [added, List.drop_length]
    exact List.forall_mem_nil _
  · cases hdecl
    refine ⟨hgeneral.other (fun _ => Decl.noConfusion), htrim, .refl _, ?_⟩
    rw [added, List.drop_length]
    exact List.forall_mem_nil _
  · refine ⟨hgeneral.other (fun _ => Decl.noConfusion), htrim, .refl _, ?_⟩
    rw [added, List.drop_left]
    intro made hmade
    rw [List.mem_singleton.mp hmade]
    have hseeded : p.general.seeded.IsTrimmed := htrim.of_catalog_eq rfl
    obtain ⟨hinherits, htrim'⟩ := applyLines_inherits hseeded happly
    exact ⟨hgeneral,
      ⟨hinherits.headers, hinherits.params, hinherits.catalog, hinherits.remark⟩, htrim,
      htrim'.of_catalog_eq rfl, name, lines, doc, s₁, s₃, rfl, hsteps, happly, rfl⟩
  · refine ⟨hgeneral.other (fun _ => Decl.noConfusion), htrim, .refl _, ?_⟩
    rw [added, List.drop_length]
    exact List.forall_mem_nil _

/-- Declarations that are read one after the other: all documents made of them go on from the
general document at their places, which goes on from what it was before. -/
theorem visitAll_goesOn {vs earlier : List Visit} {p p' : Progress} {s₁ s₂ : Session}
    (hgeneral : GeneralAfter loader s earlier p.general) (htrim : p.general.IsTrimmed)
    (hsteps : Steps loader s s₁) (h : visitAll loader vs p s₁ = (.ok p', s₂)) :
    (∀ x ∈ made loader earlier vs p s₁, GoesOn loader s x ∧ p.general.Inherits x.general) ∧
      (made loader earlier vs p s₁).Pairwise fun x y => x.general.Inherits y.general := by
  induction vs generalizing earlier p s₁ with
  | nil =>
    rw [made]
    exact ⟨fun x hx => absurd hx List.not_mem_nil, .nil⟩
  | cons v rest ih =>
    obtain ⟨p₁, s₃, hvisit, hrest⟩ := visitAll_cons_ok h
    have hsteps' := visit_steps loader v p s₁
    rw [hvisit] at hsteps'
    obtain ⟨hgeneral₁, htrim₁, hinherits, hfirst⟩ := visit_goesOn hgeneral htrim hsteps hvisit
    obtain ⟨hall, hpairs⟩ := ih hgeneral₁ htrim₁ (hsteps.trans hsteps') hrest
    rw [made_cons hvisit]
    refine ⟨?_, List.pairwise_append.mpr ⟨?_, hpairs, ?_⟩⟩
    · intro x hx
      rcases List.mem_append.mp hx with hnew | hlater
      · obtain ⟨doc, hdoc, rfl⟩ := List.mem_map.mp hnew
        exact ⟨hfirst doc hdoc, .refl _⟩
      · obtain ⟨hgoes, hfrom⟩ := hall x hlater
        exact ⟨hgoes, hinherits.trans hfrom⟩
    · rw [List.pairwise_map]
      exact List.pairwise_of_forall fun _ _ => .refl _
    · intro x hx y hy
      obtain ⟨doc, -, rfl⟩ := List.mem_map.mp hx
      exact hinherits.trans (hall y hy).2

end Assembly

/-- **General documents.** The documents of a run without failures are those of its chapters. The
declarations of a chapter are those of one file, in the order in which they are read. Every document
goes on from the general document that the comments before its operation have built, and the general
document of a later operation goes on from that of an earlier one. -/
theorem assemble_inherits_general {loader : Loader} {s : Session} {docs : List Document}
    (hok : (s.assemble loader).1 = .ok docs) :
    docs = (s.chapters loader).flatMap Assembly.Chapter.docs ∧
    ∀ c ∈ s.chapters loader,
      (∃ (unit : Nat) (others : List Nat) (s₁ : Session),
        unit :: others ∈ Assembly.files s.catalog ∧ Session.Steps loader s s₁ ∧
          c.visits = Assembly.visits s₁.catalog (unit :: others) (unit :: others).length unit) ∧
      (∀ x ∈ c.made, (∃ later, c.visits = x.earlier ++ x.visit :: later) ∧
        Assembly.GoesOn loader s x) ∧
      c.made.Pairwise fun x y => x.general.Inherits y.general := by
  obtain ⟨s', hrun⟩ := Session.assembleFiles_of_assemble_ok hok
  refine ⟨Assembly.docs_eq_flatMap_chapters hrun, ?_⟩
  have hstart : Session.Steps loader s s.start := .single (.note s _ rfl)
  intro c hc
  have hchapters := Assembly.forall₂_chapters (P := fun _ c =>
      (∃ (unit : Nat) (others : List Nat) (s₁ : Session),
        unit :: others ∈ Assembly.files s.catalog ∧ Session.Steps loader s s₁ ∧
          c.visits = Assembly.visits s₁.catalog (unit :: others) (unit :: others).length unit) ∧
      (∀ x ∈ c.made, (∃ later, c.visits = x.earlier ++ x.visit :: later) ∧
        Assembly.GoesOn loader s x) ∧
      c.made.Pairwise fun x y => x.general.Inherits y.general)
    (Assembly.files_inOrder s.catalog).ne_nil hrun ?_
  · obtain ⟨-, -, hP⟩ := Assembly.exists_left_of_mem hchapters hc
    exact hP
  · intro unit others docs s₀ s₁ p vs hgroup hsteps hvs hall
    obtain ⟨hgoes, hpairs⟩ :=
      Assembly.visitAll_goesOn .nil Document.isTrimmed_empty (hstart.trans hsteps) hall
    refine ⟨⟨unit, others, s₀, hgroup, hstart.trans hsteps, hvs⟩, ?_, hpairs⟩
    intro x hx
    obtain ⟨before, after, hearlier, hsplit⟩ := Assembly.visits_of_mem_made hx
    rw [List.nil_append] at hearlier
    exact ⟨⟨after, hearlier ▸ hsplit⟩, (hgoes x hx).1⟩

/-- A file with a general comment before an operation, and one more before another. -/
def commentedFile : List SourceUnit :=
  [{ path := ⟨"a.rs"⟩, module := "crate::a",
      decls := [.general ["@catalog /books/", "@remark one"],
        .operation "first" ["first", "@url GET /first", "@catalog new"],
        .general ["@catalog old", "@desc two"],
        .operation "second" ["second", "@url GET /second", "@remark three"]] }]

theorem assemble_inherits_general_commentedFile :
    ∃ docs, ((({} : Session).addScanned commentedFile).assemble Loader.none).1 = .ok docs ∧
      docs.map (fun doc => (doc.catalog, doc.remark, doc.description)) =
        [("books/new", "one", ""), ("books/old", "one\nthree", "")] ∧
      ∀ doc ∈ docs, doc.IsTrimmed ∧ ∃ general : Document, general.Inherits doc := by
  have hfiles : Assembly.files (({} : Session).addScanned commentedFile).catalog = [[0]] := by
    rw [Assembly.files, Catalog.scannedUnits, List.mergeSort_of_pairwise (by decide +kernel)]
    decide +kernel
  have hrun : ((({} : Session).addScanned commentedFile).assemble Loader.none).1.toOption.map
      (List.map fun doc => (doc.catalog, doc.remark, doc.description)) =
        some [("books/new", "one", ""), ("books/old", "one\nthree", "")] := by
    have hcatalog : (({} : Session).addScanned commentedFile).start.catalog =
        (({} : Session).addScanned commentedFile).catalog := rfl
    rw [Session.assemble, hcatalog, hfiles]
    decide +kernel
  cases hok : ((({} : Session).addScanned commentedFile).assemble Loader.none).1 with
  | error e =>
    rw [hok] at hrun
    cases hrun
  | ok docs =>
    rw [hok] at hrun
    obtain ⟨hdocs, hchapters⟩ := assemble_inherits_general hok
    refine ⟨docs, rfl, Option.some.inj hrun, ?_⟩
    intro doc hdoc
    rw [hdocs] at hdoc
    obtain ⟨c, hc, hmem⟩ := List.mem_flatMap.mp hdoc
    obtain ⟨x, hx, rfl⟩ := List.mem_map.mp hmem
    have hgoes := ((hchapters c hc).2.1 x hx).2
    exact ⟨hgoes.trimmed_doc, x.general, hgoes.inherits⟩

end ApiDocs
