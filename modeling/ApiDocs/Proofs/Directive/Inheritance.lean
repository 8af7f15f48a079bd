import ApiDocs.Assembly
import Mathlib.Data.List.DropRight

/-!
# What a document keeps while lines are applied to it

Lines add to the headers, the parameters of the response, the catalog and the remark of a document,
and change nothing of what is there (`applyLines_inherits`). For the catalog this rests on its
having no slash at its ends: the slashes that are dropped around a longer catalog are then no part
of the old one (`prefix_appendCatalog`).
-/

namespace ApiDocs

/-! ## Dropping characters at the ends -/

namespace Text

theorem dropEndWhile_eq_rdropWhile (p : Char → Bool) (cs : List Char) :
    dropEndWhile p cs = cs.rdropWhile p := rfl

/-- What is dropped at the end of a text is no part of a front that ends with another character. -/
theorem prefix_dropEndWhile {p : Char → Bool} {front : List Char} (back : List Char)
    (h : ∀ c ∈ front.getLast?, ¬ p c) : front <+: dropEndWhile p (front ++ back) := by
  have hfront : dropEndWhile p front = front := by
    rw [dropEndWhile_eq_rdropWhile, List.rdropWhile_eq_self_iff]
    intro hne
    exact h _ (List.getLast_mem_getLast? hne)
  rw [dropEndWhile] at hfront ⊢
  rw [List.reverse_append, List.dropWhile_append]
  split
  · exact hfront.symm ▸ List.prefix_rfl
  · rw [List.reverse_append, List.reverse_reverse]
    exact List.prefix_append _ _

/-- What is left starts with something that is not dropped. -/
theorem not_of_mem_head?_dropWhile {p : Char → Bool} {cs : List Char} {c : Char}
    (h : c ∈ (cs.dropWhile p).head?) : ¬ p c := by
  have hnot := List.head?_dropWhile_not p cs
  rw [Option.mem_def.mp h] at hnot
  exact Bool.not_eq_true _ ▸ hnot

/-- A text without some characters at its ends starts with another one. -/
theorem not_of_mem_head?_stripWhile {p : Char → Bool} {cs : List Char} {c : Char}
    (h : c ∈ (stripWhile p cs).head?) : ¬ p c := by
  obtain ⟨back, hback⟩ := List.rdropWhile_prefix p (l := cs.dropWhile p)
  rw [stripWhile, dropEndWhile_eq_rdropWhile] at h
  have hhead := List.mem_head?_append_of_mem_head? (t := back) h
  rw [hback] at hhead
  exact not_of_mem_head?_dropWhile hhead

/-- A text without some characters at its ends ends with another one. -/
theorem not_of_mem_getLast?_stripWhile {p : Char → Bool} {cs : List Char} {c : Char}
    (h : c ∈ (stripWhile p cs).getLast?) : ¬ p c := by
  rw [stripWhile, dropEndWhile, List.getLast?_reverse] at h
  exact not_of_mem_head?_dropWhile h

/-- What is dropped around a text is no part of a front that has other characters at its ends. -/
theorem prefix_stripWhile {p : Char → Bool} {front : List Char} (back : List Char)
    (hhead : ∀ c ∈ front.head?, ¬ p c) (hlast : ∀ c ∈ front.getLast?, ¬ p c) :
    front <+: stripWhile p (front ++ back) := by
  cases front with
  | nil => exact List.nil_prefix
  | cons c rest =>
    rw [stripWhile, List.cons_append, List.dropWhile_cons_of_neg (hhead c rfl), ← List.cons_append]
    exact prefix_dropEndWhile back hlast

end Text

namespace Document

/-! ## Catalogs without slashes at their ends -/

/-- Whether the catalog of a document neither begins nor ends with a slash. -/
structure IsTrimmed (doc : Document) : Prop where
  /-- The beginning. -/
  head : doc.catalog.toList.head? ≠ some '/'
  /-- The end. -/
  last : doc.catalog.toList.getLast? ≠ some '/'

/-- The empty document has no catalog to trim. -/
theorem isTrimmed_empty : IsTrimmed {} :=
  ⟨nofun, nofun⟩

theorem IsTrimmed.of_catalog_eq {g d : Document} (hg : g.IsTrimmed) (h : d.catalog = g.catalog) :
    d.IsTrimmed :=
  ⟨h ▸ hg.head, h ▸ hg.last⟩

/-! ## Inheriting -/

/-- Whether a document goes on from another one: it has its headers, its parameters of the
response, its catalog and its remark, each with something or nothing behind it. -/
structure Inherits (g d : Document) : Prop where
  /-- The headers. -/
  headers : g.request.headers <+: d.request.headers
  /-- The parameters of the response. -/
  params : g.response.params <+: d.response.params
  /-- The catalog. -/
  catalog : g.catalog.toList <+: d.catalog.toList
  /-- The remark. -/
  remark : g.remark.toList <+: d.remark.toList

theorem Inherits.refl (g : Document) : g.Inherits g :=
  ⟨List.prefix_rfl, List.prefix_rfl, List.prefix_rfl, List.prefix_rfl⟩

theorem Inherits.trans {g d e : Document} (h : g.Inherits d) (h' : d.Inherits e) : g.Inherits e :=
  ⟨h.headers.trans h'.headers, h.params.trans h'.params, h.catalog.trans h'.catalog,
    h.remark.trans h'.remark⟩

end Document

namespace Directive

/-! ## Single keywords -/

/-- A catalog with one more part. -/
theorem toList_appendCatalog (catalog part : String) :
    ∃ more, (appendCatalog catalog part).toList =
      Text.stripWhile (· == '/') (catalog.toList ++ more) := by
  rw [appendCatalog]
  split
  · exact ⟨part.toList, by rw [String.toList_ofList, String.toList_append]⟩
  · exact ⟨"/".toList ++ part.toList, by
      rw [String.toList_ofList, String.toList_append, String.toList_append, List.append_assoc]⟩

/-- A catalog that is trimmed is the beginning of the one with a part appended. -/
theorem prefix_appendCatalog {doc : Document} (h : doc.IsTrimmed) (part : String) :
    doc.catalog.toList <+: (appendCatalog doc.catalog part).toList := by
  obtain ⟨more, hmore⟩ := toList_appendCatalog doc.catalog part
  rw [hmore]
  apply Text.prefix_stripWhile
  · intro c hc hslash
    exact h.head (beq_iff_eq.mp hslash ▸ hc)
  · intro c hc hslash
    exact h.last (beq_iff_eq.mp hslash ▸ hc)

/-- A catalog is trimmed once a part was appended. -/
theorem isTrimmed_appendCatalog (doc : Document) (catalog part : String) :
    { doc with catalog := appendCatalog catalog part }.IsTrimmed := by
  obtain ⟨more, hmore⟩ := toList_appendCatalog catalog part
  refine ⟨?_, ?_⟩
  · show (appendCatalog catalog part).toList.head? ≠ some '/'
    rw [hmore]
    exact fun hhead => Text.not_of_mem_head?_stripWhile hhead rfl
  · show (appendCatalog catalog part).toList.getLast? ≠ some '/'
    rw [hmore]
    exact fun hlast => Text.not_of_mem_getLast?_stripWhile hlast rfl

/-- A text is the beginning of the one with a line appended. -/
theorem prefix_appendLine (text line : String) :
    text.toList <+: (appendLine text line).toList := by
  rw [appendLine]
  split
  · rename_i hempty
    rw [String.isEmpty_iff.mp hempty]
    exact List.nil_prefix
  · rw [String.toList_append, String.toList_append, List.append_assoc]
    exact List.prefix_append _ _

/-- A line is put together from what its payload describes. -/
theorem exists_described_of_put_ok {α : Type} {add : Described α → Document}
    {result : Except DirectiveError (Described α) × Session} {doc : Document} {s : Session}
    (h : put add result = (.ok doc, s)) : ∃ described, doc = add described := by
  obtain ⟨e | described, s'⟩ := result
  · cases h
  · cases h
    exact ⟨described, rfl⟩

/-! ## Lines -/

/-- A document with the inherited parts of another one, and trimmed as that one was. -/
theorem inherits_of_eq {doc doc' : Document} (htrim : doc.IsTrimmed)
    (hheaders : doc'.request.headers = doc.request.headers)
    (hresponse : doc'.response = doc.response)
    (hcatalog : doc'.catalog = doc.catalog) (hremark : doc'.remark = doc.remark) :
    doc.Inherits doc' ∧ doc'.IsTrimmed :=
  ⟨⟨hheaders ▸ List.prefix_rfl, hresponse ▸ List.prefix_rfl, hcatalog ▸ List.prefix_rfl,
    hremark ▸ List.prefix_rfl⟩, htrim.of_catalog_eq hcatalog⟩

/-- Parameters of the request change the request only, and none of its headers. -/
theorem exists_request_of_withParams (doc : Document) (described : Described RequestParam) :
    ∃ request, withParams doc described = { doc with request := request } ∧
      request.headers = doc.request.headers := by
  obtain ⟨params, sample⟩ := described
  unfold withParams withQuery
  by_cases hget : doc.request.method = "get"
  · simp only [if_pos hget]
    split
    · split
      · exact ⟨_, rfl, rfl⟩
      · exact ⟨_, rfl, rfl⟩
    · exact ⟨_, rfl, rfl⟩
  · simp only [if_neg hget]
    split
    · split
      · exact ⟨_, rfl, rfl⟩
      · exact ⟨_, rfl, rfl⟩
    · exact ⟨_, rfl, rfl⟩

variable {scope : Option TypeScope} {doc doc' : Document} {s s' : Session}

/-- What a directive does to a document whose catalog has no slashes at its ends. -/
theorem applyKeyword_inherits {keyword : Keyword} {payload : String} (htrim : doc.IsTrimmed)
    (h : applyKeyword scope keyword payload doc s = (.ok doc', s')) :
    doc.Inherits doc' ∧ doc'.IsTrimmed := by
  cases keyword with
  | title | description | status | unknown =>
    cases h
    exact inherits_of_eq htrim rfl rfl rfl rfl
  | catalog =>
    cases h
    exact ⟨⟨List.prefix_rfl, List.prefix_rfl, prefix_appendCatalog htrim payload, List.prefix_rfl⟩,
      isTrimmed_appendCatalog doc doc.catalog payload⟩
  | remark =>
    cases h
    exact ⟨⟨List.prefix_rfl, List.prefix_rfl, List.prefix_rfl, prefix_appendLine _ payload⟩,
      htrim.of_catalog_eq rfl⟩
  | url =>
    rw [applyKeyword, applyUrl] at h
    split at h
    · cases h
      exact inherits_of_eq htrim rfl rfl rfl rfl
    · cases h
  | header =>
    rw [applyKeyword, applyHeader] at h
    split at h
    · cases h
      exact ⟨⟨List.prefix_append _ _, List.prefix_rfl, List.prefix_rfl, List.prefix_rfl⟩,
        htrim.of_catalog_eq rfl⟩
    · cases h
  | pathVariable =>
    rw [applyKeyword, applyPathVariable] at h
    split at h
    · cases h
      exact inherits_of_eq htrim rfl rfl rfl rfl
    · cases h
  | mode =>
    rw [applyKeyword, applyMode] at h
    split at h
    · cases h
    · split at h
      · cases h
      · cases h
        exact inherits_of_eq htrim rfl rfl rfl rfl
  | query =>
    obtain ⟨described, rfl⟩ := exists_described_of_put_ok h
    exact inherits_of_eq htrim rfl rfl rfl rfl
  | param =>
    obtain ⟨described, rfl⟩ := exists_described_of_put_ok h
    obtain ⟨request, hrequest, hheaders⟩ := exists_request_of_withParams doc described
    rw [hrequest]
    exact inherits_of_eq htrim hheaders rfl rfl rfl
  | response =>
    obtain ⟨described, rfl⟩ := exists_described_of_put_ok h
    exact ⟨⟨List.prefix_rfl, List.prefix_append _ _, List.prefix_rfl, List.prefix_rfl⟩,
      htrim.of_catalog_eq rfl⟩
  | failure =>
    obtain ⟨described, rfl⟩ := exists_described_of_put_ok h
    exact inherits_of_eq htrim rfl rfl rfl rfl

/-- **A line.** It takes nothing away from what a document was given before. -/
theorem applyLine_inherits {operation line : String} (htrim : doc.IsTrimmed)
    (h : applyLine scope operation line doc s = (.ok doc', s')) :
    doc.Inherits doc' ∧ doc'.IsTrimmed := by
  unfold applyLine at h
  split at h
  · cases h
    exact ⟨.refl doc, htrim⟩
  · split at h
    · cases h
      exact inherits_of_eq htrim rfl rfl rfl rfl
    · exact applyKeyword_inherits htrim h

end Directive

/-- **Lines.** A document to which lines were applied goes on from what it was before. -/
theorem Assembly.applyLines_inherits {scope : TypeScope} {operation : String} {lines : List String}
    {doc doc' : Document} {s s' : Session} (htrim : doc.IsTrimmed)
    (h : applyLines scope operation lines doc s = (.ok doc', s')) :
    doc.Inherits doc' ∧ doc'.IsTrimmed := by
  induction lines generalizing doc s with
  | nil =>
    cases h
    exact ⟨.refl _, htrim⟩
  | cons line rest ih =>
    unfold applyLines at h
    simp only at h
    split at h
    · rename_i doc₁ s₁ hline
      obtain ⟨hfirst, htrim₁⟩ := Directive.applyLine_inherits htrim hline
      obtain ⟨hrest, htrim'⟩ := ih htrim₁ h
      exact ⟨hfirst.trans hrest, htrim'⟩
    · cases h

end ApiDocs
