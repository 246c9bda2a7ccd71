import Accessors.Proofs.Generate.Rerun
import Accessors.Proofs.Plan.Kinds
import Accessors.Proofs.Text.Folding

/-!
# Names of planned methods

A class cannot have two methods whose names differ in the case of ASCII letters only. The names that
a plan adds are pairwise different in this sense, whatever the properties are called. They differ
from the names of the methods that are there as long as coverage looks for an accessor under the
lower case of the name it would get (`Accessor.key`), and for a property whose name starts with an
ASCII letter, a digit or an underscore it does.

* `Accessor.lower_name`: the lower case of a planned name is the name that coverage looks for.
* `ClassModel.pairwise_missing`: no two planned names are alike in lower case.
* `Plan.methods_fresh`: what is different from what.
* `Plan.getter_redeclared`: a getter that is declared a second time.
-/

namespace Accessors

open Document Text

/-- Coverage looks for an accessor under the lower case of its name, if the name of the property
starts plainly. -/
theorem Accessor.lower_name {a : Accessor} (h : StartsPlain a.property.name) :
    Text.lower a.name = a.key := by
  obtain ⟨kind, p⟩ := a
  cases kind with
  | getter => exact lower_append_capitalize (s := "get".toList) (by simp) h
  | setter => exact lower_append_capitalize (s := "set".toList) (by simp) h

namespace ClassModel

/-- The accessors kept differ in the lower case of their names, from each other and from the names
seen before. -/
theorem pairwise_keepFirst (seen : List Text) (accessors : List Accessor) :
    (keepFirst seen accessors).Pairwise (fun a b => Text.lower a.name ≠ Text.lower b.name) ∧
      ∀ a ∈ keepFirst seen accessors, Text.lower a.name ∉ seen := by
  induction accessors generalizing seen with
  | nil => exact ⟨List.Pairwise.nil, by simp [keepFirst]⟩
  | cons a rest ih =>
    rw [keepFirst]
    simp only [List.contains_iff_mem]
    split
    · exact ih seen
    · rename_i hfresh
      obtain ⟨hpairs, hunseen⟩ := ih (Text.lower a.name :: seen)
      constructor
      · refine List.pairwise_cons.2 ⟨fun b hb heq => ?_, hpairs⟩
        exact hunseen b hb (heq ▸ List.mem_cons_self)
      · intro b hb
        rcases List.mem_cons.1 hb with rfl | hb
        · exact hfresh
        · intro hmem
          exact hunseen b hb (List.mem_cons_of_mem _ hmem)

theorem pairwise_missing (kinds : Kinds) (c : ClassModel) :
    (c.missing kinds).Pairwise fun a b => Text.lower a.name ≠ Text.lower b.name :=
  (pairwise_keepFirst [] _).1

/-- An accessor that a class lacks is not covered. -/
theorem hasMethod_key_of_mem_missing {kinds : Kinds} {c : ClassModel} {a : Accessor}
    (h : a ∈ c.missing kinds) : c.hasMethod a.key = false := by
  obtain ⟨p, -, ha⟩ := List.mem_flatMap.1 (mem_of_mem_keepFirst h)
  rw [lacking_eq] at ha
  have hlacks := (List.mem_filter.1 ha).2
  simpa using hlacks

/-- A method with the name of an accessor that the class lacks goes unnoticed only where coverage
looks for another name. -/
theorem lower_name_ne_key {kinds : Kinds} {c : ClassModel} {a : Accessor}
    (h : a ∈ c.missing kinds) {n : Text} (hn : n ∈ c.methodNames)
    (hfold : asciiFold a.name = asciiFold n) : Text.lower a.name ≠ a.key := by
  intro hkey
  have hlower : Text.lower n = a.key := by rw [← lower_congr hfold, hkey]
  have hcovered : c.hasMethod a.key = true := by
    unfold hasMethod
    exact List.any_eq_true.2 ⟨n, hn, decide_eq_true hlower⟩
  rw [hasMethod_key_of_mem_missing h] at hcovered
  cases hcovered

end ClassModel

/-- The methods planned for a class have pairwise different names, without regard to the case of
ASCII letters. Where one of them has the name of a method that is there, it is an accessor that
coverage looks for under another name, of a property whose name does not start plainly. -/
theorem Plan.methods_fresh {kinds : Kinds} {tabSize : Nat} {d : Document} {c : ClassModel}
    {planned : PlannedEdit} (h : planClass kinds tabSize d c = some planned) :
    planned.methods.Pairwise (fun m n => asciiFold m ≠ asciiFold n) ∧
      ∀ m ∈ planned.methods, ∀ n ∈ c.methodNames, asciiFold m = asciiFold n →
        ∃ a ∈ c.missing kinds, m = a.name ∧ Text.lower a.name ≠ a.key ∧
          ¬ StartsPlain a.property.name := by
  rw [planClass_eq] at h
  obtain ⟨-, hmethods, -⟩ := adding_eq_some h
  rw [hmethods]
  constructor
  · rw [List.pairwise_map]
    refine (c.pairwise_missing kinds).imp ?_
    intro a b hne hfold
    exact hne (lower_congr hfold)
  · intro m hm n hn hfold
    obtain ⟨a, ha, rfl⟩ := List.mem_map.1 hm
    have hne := ClassModel.lower_name_ne_key ha hn hfold
    exact ⟨a, ha, rfl, hne, fun hplain => hne (Accessor.lower_name hplain)⟩

/-- Two properties differ in case only, and one has a name without a capital letter, whose getter
is there. -/
theorem Plan.methods_fresh_repeated :
    let c : ClassModel := ⟨"A".toList, 0, 9, 0,
      [⟨"id".toList, none⟩, ⟨"ID".toList, none⟩, ⟨"ß".toList, none⟩], ["GETss".toList]⟩
    ∃ planned, planClass .both 4 (ofText []) c = some planned ∧
      planned.methods =
        ["getId".toList, "setId".toList, "getSS".toList, "setSS".toList] ∧
      planned.methods.Pairwise (fun m n => asciiFold m ≠ asciiFold n) ∧
      ∃ a ∈ c.missing .both, "getSS".toList = a.name ∧ Text.lower a.name ≠ a.key ∧
        ¬ StartsPlain a.property.name := by
  intro c
  have hmethods : (planClass .both 4 (ofText []) c).map PlannedEdit.methods =
      some ["getId".toList, "setId".toList, "getSS".toList, "setSS".toList] := by decide +kernel
  obtain ⟨planned, hplanned, hnames⟩ := Option.map_eq_some_iff.1 hmethods
  obtain ⟨hpairs, hfresh⟩ := methods_fresh hplanned
  refine ⟨planned, hplanned, hnames, hpairs, ?_⟩
  exact hfresh _ (by simp [hnames]) "GETss".toList (by simp [c]) (by decide)

/-- The getter of a property whose name has no capital letter of one character is declared a second
time. -/
theorem Plan.getter_redeclared :
    let source :=
      "<?php\nclass A \x7b\n    private $ß;\n    function getSS() \x7b\x7d\n\x7d\n".toList
    ∃ c planned, Extract.ofSource .isPrivate source = .ok [c] ∧
      planClass .gettersOnly 4 (ofText source) c = some planned ∧
      "getSS".toList ∈ planned.methods ∧ "getSS".toList ∈ c.methodNames := by
  intro source
  let c : ClassModel := ⟨"A".toList, 1, 4, 0, [⟨"ß".toList, none⟩], ["getSS".toList]⟩
  have hmethods : (planClass .gettersOnly 4 (ofText source) c).map PlannedEdit.methods =
      some ["getSS".toList] := by decide +kernel
  obtain ⟨planned, hplanned, hnames⟩ := Option.map_eq_some_iff.1 hmethods
  exact ⟨c, planned, by decide +kernel, hplanned, by simp [hnames], by simp [c]⟩

end Accessors
