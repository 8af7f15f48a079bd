import ApiDocs.Proofs.Expansion.Walk

/-!
# Walks without a bound

A walk of bounded depth gives nothing where the bound is too small, and a deeper one gives all that
it gives (`upTo_isPartOf`). The walk without a bound gives what any of them gives. What is made of
it is made of a deep enough one (`Continuous`), since each way to go on is used only so often.
Therefore it goes on below a type in the same way as above it: `unbounded_expand`,
`unbounded_build` and `unbounded_flatten` are the equations of a walk without any depth in them.
-/

namespace ApiDocs

namespace Walk

/-! ## Limits -/

/-- Whether all that a walk gives is given by another one. -/
structure IsPartOf (below above : Walk) : Prop where
  /-- Structures. -/
  expand : ∀ {id w r}, below.expand id w = some r → above.expand id w = some r
  /-- Fields. -/
  build : ∀ {slot owner type unit w r}, below.build slot owner type unit w = some r →
    above.build slot owner type unit w = some r
  /-- Flattened fields. -/
  flatten : ∀ {type unit w r}, below.flatten type unit w = some r →
    above.flatten type unit w = some r

theorem IsPartOf.refl (below : Walk) : below.IsPartOf below :=
  ⟨id, id, id⟩

/-- Whether a walk gives exactly what any of some walks gives, of which each gives all that the ones
before it give. -/
structure IsLimit (walks : Nat → Walk) (limit : Walk) : Prop where
  /-- Later walks give more. -/
  grows : ∀ {n m}, n ≤ m → (walks n).IsPartOf (walks m)
  /-- Structures. -/
  expand : ∀ {id w r}, limit.expand id w = some r ↔ ∃ n, (walks n).expand id w = some r
  /-- Fields. -/
  build : ∀ {slot owner type unit w r}, limit.build slot owner type unit w = some r ↔
    ∃ n, (walks n).build slot owner type unit w = some r
  /-- Flattened fields. -/
  flatten : ∀ {type unit w r}, limit.flatten type unit w = some r ↔
    ∃ n, (walks n).flatten type unit w = some r

/-- The greater of two walks is the limit of the two. -/
theorem IsPartOf.isLimit {below above : Walk} (h : below.IsPartOf above) :
    IsLimit (fun n => if n = 0 then below else above) above := by
  have hpart : ∀ n, (if n = 0 then below else above).IsPartOf above := by
    intro n
    split
    · exact h
    · exact .refl above
  refine ⟨?_, ⟨fun hr => ⟨1, hr⟩, ?_⟩, ⟨fun hr => ⟨1, hr⟩, ?_⟩, ⟨fun hr => ⟨1, hr⟩, ?_⟩⟩
  · intro n m hle
    by_cases hm : m = 0
    · obtain rfl : n = m := by omega
      exact .refl _
    · rw [if_neg hm]
      exact hpart n
  · rintro ⟨n, hr⟩
    exact (hpart n).expand hr
  · rintro ⟨n, hr⟩
    exact (hpart n).build hr
  · rintro ⟨n, hr⟩
    exact (hpart n).flatten hr

/-- Whether what is made of a limit of walks is what is made of one of them. -/
structure Continuous {α : Type} (make : Walk → Option α) : Prop where
  /-- What is made of a limit. -/
  limit : ∀ {walks limit}, IsLimit walks limit →
    ∀ {a}, make limit = some a ↔ ∃ n, make (walks n) = some a

namespace Continuous

variable {α β : Type}

/-- What is made of a walk is made of every walk that gives more. -/
theorem mono {make : Walk → Option α} (h : Continuous make) {below above : Walk}
    (hpart : below.IsPartOf above) {a : α} (ha : make below = some a) : make above = some a :=
  (h.limit hpart.isLimit).mpr ⟨0, ha⟩

theorem const (x : Option α) : Continuous fun _ => x :=
  ⟨fun _ => ⟨fun h => ⟨0, h⟩, fun ⟨_, h⟩ => h⟩⟩

/-- What is made of a continuous result is continuous. -/
theorem map {make : Walk → Option α} (h : Continuous make) (f : α → β) :
    Continuous fun below => (make below).map f := by
  refine ⟨fun {walks limit} hlimit b => ?_⟩
  simp only [Option.map_eq_some_iff]
  constructor
  · rintro ⟨a, ha, rfl⟩
    obtain ⟨n, hn⟩ := (h.limit hlimit).mp ha
    exact ⟨n, a, hn, rfl⟩
  · rintro ⟨n, a, ha, rfl⟩
    exact ⟨a, (h.limit hlimit).mpr ⟨n, ha⟩, rfl⟩

/-- Continuous results one after the other are continuous. -/
theorem bind {make : Walk → Option α} {next : α → Walk → Option β} (h : Continuous make)
    (hnext : ∀ a, Continuous (next a)) :
    Continuous fun below => (make below).bind fun a => next a below := by
  refine ⟨fun {walks limit} hlimit b => ?_⟩
  simp only [Option.bind_eq_some_iff]
  constructor
  · rintro ⟨a, ha, hb⟩
    obtain ⟨n, hn⟩ := (h.limit hlimit).mp ha
    obtain ⟨m, hm⟩ := ((hnext a).limit hlimit).mp hb
    -- a walk that is deep enough for both
    exact ⟨max n m, a, h.mono (hlimit.grows (Nat.le_max_left n m)) hn,
      (hnext a).mono (hlimit.grows (Nat.le_max_right n m)) hm⟩
  · rintro ⟨n, a, ha, hb⟩
    exact ⟨a, (h.limit hlimit).mpr ⟨n, ha⟩, ((hnext a).limit hlimit).mpr ⟨n, hb⟩⟩

end Continuous

/-! ## The ways of a walk -/

variable {loader : Loader}

/-- Expanding a structure below is continuous. -/
theorem expand_continuous (id : Nat) (w : Walker) :
    Continuous fun below => below.expand id w :=
  ⟨fun hlimit => hlimit.expand⟩

theorem build_continuous (slot : Slot) (owner : String) (type : TypeExpr) (unit : Nat)
    (w : Walker) : Continuous fun below => below.build slot owner type unit w :=
  ⟨fun hlimit => hlimit.build⟩

/-- Flattening a type below is continuous. -/
theorem flatten_continuous (type : TypeExpr) (unit : Nat) (w : Walker) :
    Continuous fun below => below.flatten type unit w :=
  ⟨fun hlimit => hlimit.flatten⟩

/-- Meeting a type name is continuous, since it asks the walk below once at most. -/
theorem meet_continuous {α β : Type}
    {inner : Walk → TypeExpr → Nat → Walker → Option (β × Walker)}
    (hinner : ∀ type unit w, Continuous fun below => inner below type unit w) (ways : Ways α β)
    (name : String) (unit : Nat) (w : Walker) :
    Continuous fun below => meet loader below (inner below) ways name unit w := by
  unfold meet
  rcases w.target loader name unit with ⟨target, w₁⟩
  cases target with
  | struct id path =>
    simp only
    split
    · exact .const _
    · exact (expand_continuous id w₁).map _
  | synonym type unit path =>
    simp only
    split
    · exact .const _
    · exact (hinner type unit (w₁.enter path)).map _
  | enum variants => exact .const _
  | missing => exact .const _

/-- Building a field is continuous, whatever its type. -/
theorem buildWith_continuous (slot : Slot) (owner : String) (type : TypeExpr) (unit : Nat)
    (w : Walker) : Continuous fun below => buildWith loader below slot owner type unit w := by
  induction type with
  | named name =>
    simp only [buildWith, buildNamed_eq_meet]
    split
    · exact .const _
    · exact meet_continuous (build_continuous slot owner) _ name unit w
  | sequence element ih =>
    cases element with
    | named name =>
      simp only [buildWith, elementNamed_eq_meet]
      split
      · exact .const _
      · split
        · exact .const _
        · exact (meet_continuous (build_continuous slot owner) _ name unit w).map _
    | sequence inner =>
      simp only [buildWith]
      exact ih.map _
    | map _ _ | any | unknown =>
      simp only [buildWith]
      exact .const _
  | map _ _ | any | unknown =>
    simp only [buildWith]
    exact .const _

/-- Building a declared field is continuous. -/
theorem buildField_continuous (f : FieldDecl) (unit : Nat) (owner : String) (w : Walker) :
    Continuous fun below => buildField loader below f unit owner w := by
  unfold buildField
  simp only
  split
  · exact (buildWith_continuous _ owner _ unit w).map _
  · exact buildWith_continuous _ owner f.type unit w

theorem flattenWith_continuous (type : TypeExpr) (unit : Nat) (w : Walker) :
    Continuous fun below => flattenWith loader below type unit w := by
  cases type with
  | named name =>
    simp only [flattenWith_named]
    exact meet_continuous flatten_continuous _ name unit w
  | _ => exact .const _

/-- Adding a field to an expansion is continuous. -/
theorem addField_continuous (d : TypeDecl) (acc : Expansion × Walker) (f : FieldDecl) :
    Continuous fun below => addField loader below d acc f := by
  unfold addField
  simp only
  split
  · exact (flattenWith_continuous f.type d.unit acc.2).map _
  · exact (buildField_continuous f d.unit d.name acc.2).map _

theorem addFields_continuous (d : TypeDecl) (fields : List FieldDecl) (acc : Expansion × Walker) :
    Continuous fun below => fields.foldlM (addField loader below d) acc := by
  induction fields generalizing acc with
  | nil => exact .const _
  | cons f rest ih =>
    simp only [List.foldlM_cons]
    exact (addField_continuous d acc f).bind ih

/-- **A structure.** Expanding it is continuous, so it is expanded without a bound as it is within
some bound. -/
theorem expandWith_continuous (id : Nat) (w : Walker) :
    Continuous fun below => expandWith loader below id w := by
  unfold expandWith
  cases w.session.catalog.decls[id]? with
  | none => exact .const _
  | some d =>
    simp only
    cases d.body with
    | struct fields => exact (addFields_continuous d _ _).map _
    | synonym type => exact .const _
    | enum variants => exact .const _

/-! ## The walk without a bound -/

/-- A walk with a greater bound gives more. -/
theorem upTo_isPartOf_succ (loader : Loader) (n : Nat) :
    (upTo loader n).IsPartOf (upTo loader (n + 1)) := by
  induction n with
  | zero => exact ⟨nofun, nofun, nofun⟩
  | succ n ih =>
    refine ⟨?_, ?_, ?_⟩
    · intro id w r hr
      rw [upTo_succ_expand] at hr ⊢
      exact (expandWith_continuous id w).mono ih hr
    · intro slot owner type unit w r hr
      rw [upTo_succ_build] at hr ⊢
      exact (buildWith_continuous slot owner type unit w).mono ih hr
    · intro type unit w r hr
      rw [upTo_succ_flatten] at hr ⊢
      exact (flattenWith_continuous type unit w).mono ih hr

/-- **Depth.** A deeper walk gives all that a walk gives. -/
theorem upTo_isPartOf (loader : Loader) {n m : Nat} (h : n ≤ m) :
    (upTo loader n).IsPartOf (upTo loader m) := by
  induction h with
  | refl => exact .refl _
  | @step m _ ih =>
    have hsucc := upTo_isPartOf_succ loader m
    exact ⟨fun hr => hsucc.expand (ih.expand hr), fun hr => hsucc.build (ih.build hr),
      fun hr => hsucc.flatten (ih.flatten hr)⟩

/-- A walk that goes on below as many types as it takes. -/
def unbounded (loader : Loader) : Walk where
  expand id w := w.expand loader id
  build slot owner type unit w :=
    Search.result? ⟨fun n => (upTo loader n).build slot owner type unit w, 0⟩
  flatten type unit w := Search.result? ⟨fun n => (upTo loader n).flatten type unit w, 0⟩

/-- A search finds what any of its attempts finds, if deeper ones find the same. -/
theorem Search.result?_eq_some_iff {α : Type} {search : Search α}
    (hmono : ∀ {n m a}, n ≤ m → search.attempt n = some a → search.attempt m = some a) {a : α} :
    search.result? = some a ↔ ∃ n, search.attempt n = some a := by
  refine ⟨exists_of_result?, ?_⟩
  rintro ⟨n, hn⟩
  have hdeep := hmono (Nat.le_max_left n search.depth) hn
  obtain ⟨b, hb⟩ := Option.isSome_iff_exists.mp
    (isSome_result? (Nat.le_max_right n search.depth) (by rw [hdeep]; rfl))
  -- what was found first is found by the deeper attempt too
  obtain ⟨m, hm⟩ := exists_of_result? hb
  have hsame := hmono (Nat.le_max_left m n) hm
  rw [hmono (Nat.le_max_right m n) hn] at hsame
  rw [hb, ← Option.some.inj hsame]

/-- **No bound.** The walk without a bound gives what any walk of bounded depth gives. -/
theorem unbounded_isLimit (loader : Loader) : IsLimit (upTo loader) (unbounded loader) where
  grows := upTo_isPartOf loader
  expand := by
    intro id w r
    simp only [unbounded, Walker.expand_eq_result?]
    exact Search.result?_eq_some_iff fun hle => (upTo_isPartOf loader hle).expand
  build := Search.result?_eq_some_iff fun hle => (upTo_isPartOf loader hle).build
  flatten := Search.result?_eq_some_iff fun hle => (upTo_isPartOf loader hle).flatten

/-- The walk without a bound gives all that bounded ones give. -/
theorem upTo_isPartOf_unbounded (loader : Loader) (n : Nat) :
    (upTo loader n).IsPartOf (unbounded loader) :=
  have hlimit := unbounded_isLimit loader
  ⟨fun hr => hlimit.expand.mpr ⟨n, hr⟩, fun hr => hlimit.build.mpr ⟨n, hr⟩,
    fun hr => hlimit.flatten.mpr ⟨n, hr⟩⟩

/-- What a walk of some depth more gives is made of what a walk of some depth gives. -/
theorem exists_upTo_iff {α : Type} {make : Walk → Option α} (hmake : Continuous make)
    {attempt : Nat → Option α} (hattempt : ∀ n, attempt (n + 1) = make (upTo loader n))
    (hzero : attempt 0 = none) {a : α} :
    (∃ n, attempt n = some a) ↔ make (unbounded loader) = some a := by
  rw [hmake.limit (unbounded_isLimit loader)]
  constructor
  · rintro ⟨_ | n, hn⟩
    · rw [hzero] at hn
      cases hn
    · exact ⟨n, hattempt n ▸ hn⟩
  · rintro ⟨n, hn⟩
    exact ⟨n + 1, (hattempt n).trans hn⟩

/-- **Structures.** An expansion goes on below the structure as it starts. -/
theorem unbounded_expand (loader : Loader) (id : Nat) (w : Walker) :
    w.expand loader id = expandWith loader (unbounded loader) id w := by
  apply Option.ext
  intro r
  have hlimit : w.expand loader id = some r ↔ _ := (unbounded_isLimit loader).expand
  rw [hlimit]
  exact exists_upTo_iff (expandWith_continuous id w) (fun _ => rfl) rfl

/-- **Fields.** -/
theorem unbounded_build (loader : Loader) :
    (unbounded loader).build = buildWith loader (unbounded loader) := by
  funext slot owner type unit w
  apply Option.ext
  intro r
  rw [(unbounded_isLimit loader).build]
  exact exists_upTo_iff (buildWith_continuous slot owner type unit w) (fun _ => rfl) rfl

/-- **Flattened fields.** -/
theorem unbounded_flatten (loader : Loader) :
    (unbounded loader).flatten = flattenWith loader (unbounded loader) := by
  funext type unit w
  apply Option.ext
  intro r
  rw [(unbounded_isLimit loader).flatten]
  exact exists_upTo_iff (flattenWith_continuous type unit w) (fun _ => rfl) rfl

end Walk

end ApiDocs
