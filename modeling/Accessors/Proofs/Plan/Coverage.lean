import Accessors.Proofs.Plan.Names

/-!
# Coverage by planned methods

A plan leaves out an accessor whose name, in lower case, an earlier accessor already has. Where
coverage looks for every accessor under the lower case of its name, the earlier method covers both,
so a class with the methods planned for it lacks nothing. Names of ASCII characters are of this
kind, whatever characters they are made of.

* `Plan.methodNames`: the names of the methods planned for a class.
* `ClassModel.exists_mem_keepFirst`: an accessor that is left out has the name of one that is kept.
* `ClassModel.Gains.missing_eq_nil`: a class that gained its planned methods lacks nothing.
* `Plan.methods_complete_coverage`: this for properties with ASCII names.
-/

namespace Accessors

open Document Text

/-! ## Names of ASCII characters -/

theorem Text.lower_ascii {t : Text} (ht : ∀ c ∈ t, c.toNat < 128) : lower t = asciiFold t := by
  have hfold := lowerFrom_ascii_append ht [] []
  simpa [lower, lowerFrom] using hfold

theorem Text.asciiFold_append_capitalize (s : Text) {t : Text} (ht : ∀ c ∈ t, c.toNat < 128) :
    asciiFold (s ++ capitalize t) = asciiFold (s ++ t) := by
  cases t with
  | nil => rfl
  | cons c t =>
    have hcapital := asciiFold_capitalize (ht c List.mem_cons_self) t
    unfold asciiFold at hcapital ⊢
    rw [List.map_append, List.map_append, hcapital]

/-- Unlike a name that merely starts plainly, an ASCII name may start with a character that is
Case_Ignorable; but it has no sigma that could see what stands in front of it. -/
theorem Text.lower_append_capitalize_ascii {s t : Text} (hs : ∀ c ∈ s, c.toNat < 128)
    (ht : ∀ c ∈ t, c.toNat < 128) : lower (s ++ capitalize t) = asciiFold s ++ lower t := by
  have hboth : ∀ c ∈ s ++ t, c.toNat < 128 := by
    intro c hc
    rcases List.mem_append.1 hc with hc | hc
    · exact hs c hc
    · exact ht c hc
  calc lower (s ++ capitalize t)
      = lower (s ++ t) := lower_congr (asciiFold_append_capitalize s ht)
    _ = asciiFold (s ++ t) := lower_ascii hboth
    _ = asciiFold s ++ lower t := by rw [lower_ascii ht, asciiFold, List.map_append]; rfl

theorem Accessor.lower_name_ascii {a : Accessor} (h : ∀ c ∈ a.property.name, c.toNat < 128) :
    Text.lower a.name = a.key := by
  obtain ⟨kind, p⟩ := a
  cases kind with
  | getter => exact lower_append_capitalize_ascii (s := "get".toList) (by simp) h
  | setter => exact lower_append_capitalize_ascii (s := "set".toList) (by simp) h

/-! ## Accessors that are left out -/

theorem Kinds.property_eq {kinds : Kinds} {p : Property} {a : Accessor}
    (h : a ∈ kinds.accessors p) : a.property = p := by
  rw [accessors, List.mem_append] at h
  rcases h with h | h
  · split at h
    · rw [List.mem_singleton.1 h]
    · cases h
  · split at h
    · rw [List.mem_singleton.1 h]
    · cases h

namespace ClassModel

/-- An accessor is left out only for one that is kept, or was seen before, under the same name. -/
theorem exists_mem_keepFirst (seen : List Text) {accessors : List Accessor} {a : Accessor}
    (h : a ∈ accessors) :
    Text.lower a.name ∈ seen ∨
      ∃ b ∈ keepFirst seen accessors, Text.lower b.name = Text.lower a.name := by
  induction accessors generalizing seen with
  | nil => cases h
  | cons first rest ih =>
    rw [keepFirst]
    simp only [List.contains_iff_mem]
    split
    · rename_i hseen
      rcases List.mem_cons.1 h with rfl | h
      · exact Or.inl hseen
      · exact ih seen h
    · rcases List.mem_cons.1 h with rfl | h
      · exact Or.inr ⟨a, List.mem_cons_self, rfl⟩
      · rcases ih (Text.lower first.name :: seen) h with hseen | ⟨b, hb, hname⟩
        · rcases List.mem_cons.1 hseen with hname | hseen
          · exact Or.inr ⟨first, List.mem_cons_self, hname.symm⟩
          · exact Or.inl hseen
        · exact Or.inr ⟨b, List.mem_cons_of_mem _ hb, hname⟩

/-- An accessor that is asked for is there, or a method is planned under the name it would get. -/
theorem hasMethod_or_exists_missing {kinds : Kinds} {c : ClassModel} {p : Property} {a : Accessor}
    (hp : p ∈ c.properties) (ha : a ∈ kinds.accessors p) :
    c.hasMethod a.key = true ∨ ∃ b ∈ c.missing kinds, Text.lower b.name = Text.lower a.name := by
  cases hhas : c.hasMethod a.key with
  | true => exact Or.inl rfl
  | false =>
    have hlacks : a ∈ c.lacking kinds p := by
      rw [lacking_eq]
      exact List.mem_filter.2 ⟨ha, by simp [hhas]⟩
    rcases exists_mem_keepFirst [] (List.mem_flatMap.2 ⟨p, hp, hlacks⟩) with hseen | hkept
    · cases hseen
    · exact Or.inr hkept

/-- A class that gained its planned methods lacks nothing, if coverage looks for each accessor under
the lower case of its name. -/
theorem Gains.missing_eq_nil {kinds : Kinds} {before after : ClassModel}
    (h : Gains kinds before after)
    (hname : ∀ p ∈ before.properties, ∀ a ∈ kinds.accessors p, Text.lower a.name = a.key) :
    after.missing kinds = [] := by
  rw [ClassModel.missing_eq_nil, h.properties]
  intro p hp a ha
  rw [h.hasMethod, Bool.or_eq_true]
  rcases hasMethod_or_exists_missing hp ha with hhas | ⟨b, hb, hlower⟩
  · exact Or.inl hhas
  · rw [hname p hp a ha] at hlower
    exact Or.inr (List.any_eq_true.2 ⟨b, hb, decide_eq_true hlower⟩)

/-- A class with more methods. -/
def withMethods (c : ClassModel) (methods : List Text) : ClassModel :=
  { c with methodNames := c.methodNames ++ methods }

end ClassModel

/-! ## Planned methods -/

/-- The names of the methods planned for a class, none where nothing is planned. -/
def Plan.methodNames (kinds : Kinds) (tabSize : Nat) (d : Document) (c : ClassModel) : List Text :=
  ((planClass kinds tabSize d c).map PlannedEdit.methods).getD []

theorem Plan.methodNames_eq (kinds : Kinds) (tabSize : Nat) (d : Document) (c : ClassModel) :
    methodNames kinds tabSize d c = (c.missing kinds).map Accessor.name := by
  rw [methodNames, planClass_eq]
  cases c.missing kinds with
  | nil => rfl
  | cons a rest => rfl

theorem Plan.gains_withMethods (kinds : Kinds) (tabSize : Nat) (d : Document) (c : ClassModel) :
    ClassModel.Gains kinds c (c.withMethods (methodNames kinds tabSize d c)) where
  name := rfl
  properties := rfl
  methodNames := by
    rw [methodNames_eq]
    exact List.Perm.refl _

/-- A class whose properties have ASCII names, repeated ones and ones that differ in case included,
has every accessor asked for once the methods planned for it are among its own, whatever these are
called. It is offered no more, and planning it again, in any document, plans nothing. -/
theorem Plan.methods_complete_coverage {c : ClassModel}
    (h : ∀ p ∈ c.properties, ∀ x ∈ p.name, x.toNat < 128) (kinds : Kinds) (tabSize : Nat)
    (d : Document) :
    let after := c.withMethods (methodNames kinds tabSize d c)
    (∀ p ∈ c.properties, (kinds.getters = true → after.hasGetter p.name = true) ∧
        (kinds.setters = true → after.hasSetter p.name = true)) ∧
      after.isCandidate kinds = false ∧
      ∀ (tabSize' : Nat) (d' : Document), planClass kinds tabSize' d' after = none := by
  intro after
  have hmissing : after.missing kinds = [] := by
    refine (gains_withMethods kinds tabSize d c).missing_eq_nil fun p hp a ha => ?_
    apply Accessor.lower_name_ascii
    rw [Kinds.property_eq ha]
    exact h p hp
  refine ⟨fun p hp => ?_, ?_, fun tabSize' d' => ?_⟩
  · have hcovered := ClassModel.missing_eq_nil.1 hmissing p hp
    constructor
    · intro hget
      exact hcovered ⟨.getter, p⟩ (by simp [Kinds.accessors, hget])
    · intro hset
      exact hcovered ⟨.setter, p⟩ (by simp [Kinds.accessors, hset])
  · rw [← Bool.not_eq_true, ClassModel.isCandidate_iff, hmissing]
    simp
  · rw [planClass_eq, hmissing]
    rfl

/-- Names that differ in case, a name that starts with a dot, and a getter whose name has the Kelvin
sign for its `k`. -/
theorem Plan.methods_complete_coverage_kelvin :
    let c : ClassModel := ⟨"A".toList, 0, 9, 0,
      [⟨"id".toList, none⟩, ⟨"ID".toList, none⟩, ⟨".x".toList, none⟩, ⟨"k".toList, none⟩],
      ["get\u212a".toList, "ΣΑΣ".toList]⟩
    let after := c.withMethods (methodNames .gettersOnly 4 (ofText []) c)
    methodNames .gettersOnly 4 (ofText []) c = ["getId".toList, "get.x".toList] ∧
      (∀ p ∈ c.properties, after.hasGetter p.name = true) ∧
      after.isCandidate .gettersOnly = false ∧
      planClass .gettersOnly 2 (ofText []) after = none := by
  intro c after
  have hascii : ∀ p ∈ c.properties, ∀ x ∈ p.name, x.toNat < 128 := by simp [c]
  obtain ⟨hcovered, hcandidate, hplan⟩ :=
    methods_complete_coverage hascii .gettersOnly 4 (ofText [])
  exact ⟨by decide +kernel, fun p hp => (hcovered p hp).1 rfl, hcandidate, hplan 2 (ofText [])⟩

end Accessors
