import FlowAtlas.SoftwareUnit

/-!
# Names that end in a version

`SoftwareUnit.Versioned` is the convention by which names carry versions, said without a word on how
a name is taken apart: a file name that is not empty, a hyphen, and three runs of digits with
hyphens between them.  `SoftwareUnit.splitVersion?` cuts a name at its last three hyphens
(`splitRight_eq_four_iff`) and looks at the parts.  Digits are no hyphens, so that the name leaves
no choice, and the file name keeps every hyphen and every run of digits before the last three.

`parse_follows_convention` is the main theorem: just the names of the convention are taken apart,
and into the parts that the convention says.
-/

set_option autoImplicit false

namespace FlowAtlas
namespace SoftwareUnit

variable {digits file version : List Char} {name : String}

/-! ## The convention -/

/-- At least one character, and all of them ASCII digits. -/
def IsDigitRun (digits : List Char) : Prop := digits ≠ [] ∧ ∀ d ∈ digits, d.isDigit

/-- Three runs of digits with hyphens between them. -/
def IsVersion (version : List Char) : Prop :=
  ∃ major minor patch, IsDigitRun major ∧ IsDigitRun minor ∧ IsDigitRun patch ∧
    version = major ++ '-' :: (minor ++ '-' :: patch)

/-- The name is made of a file name, which is not empty, a hyphen and a version. -/
structure Versioned (name file version : String) : Prop where
  file_ne : file ≠ ""
  isVersion : IsVersion version.toList
  name_eq : name = file ++ "-" ++ version

/-! ## Taking a name apart -/

theorem isDigitRun_iff : isDigitRun digits = true ↔ IsDigitRun digits := by
  simp [isDigitRun, IsDigitRun]

/-- Digits are no hyphens. -/
theorem IsDigitRun.hyphen_not_mem (h : IsDigitRun digits) : '-' ∉ digits :=
  fun hmem => absurd (h.2 '-' hmem) (by decide)

theorem IsVersion.ne_nil (h : IsVersion version) : version ≠ [] := by
  obtain ⟨major, minor, patch, -, -, -, rfl⟩ := h
  simp

/-- A text is split at the hyphen behind which there is no other. -/
theorem lastHyphen?_eq_some_iff {cs before part : List Char} :
    lastHyphen? cs = some (before, part) ↔ '-' ∉ part ∧ cs = before ++ '-' :: part := by
  constructor
  · intro h
    rw [lastHyphen?] at h
    split at h
    · cases h
    · rename_i c before' hdrop
      cases h
      have hc : c = '-' := by
        have hhead := List.head?_dropWhile_not (· ≠ '-') cs.reverse
        rw [hdrop] at hhead
        simpa using hhead
      have hparts := (List.takeWhile_append_dropWhile (p := (· ≠ '-')) (l := cs.reverse))
      rw [hdrop, hc] at hparts
      refine ⟨fun hmem => ?_, ?_⟩
      · have := List.all_eq_true.1 (List.all_takeWhile (p := (· ≠ '-')) (l := cs.reverse)) '-'
          (List.mem_reverse.1 hmem)
        simp at this
      · simpa using congrArg List.reverse hparts.symm
  · rintro ⟨hpart, rfl⟩
    have hall : ∀ c ∈ part.reverse, decide (c ≠ '-') = true := fun c hc =>
      decide_eq_true fun heq => hpart (heq ▸ List.mem_reverse.1 hc)
    have hreverse : (before ++ '-' :: part).reverse = part.reverse ++ '-' :: before.reverse := by
      simp
    rw [lastHyphen?, hreverse, List.dropWhile_append_of_pos hall,
      List.takeWhile_append_of_pos hall]
    simp

/-- A text has another part if there is a hyphen behind which there is no other. -/
theorem splitRight_succ_eq_cons_cons_iff {n : Nat} {cs part next : List Char}
    {parts : List (List Char)} :
    splitRight (n + 1) cs = part :: next :: parts ↔
      ∃ before, '-' ∉ part ∧ cs = before ++ '-' :: part ∧ splitRight n before = next :: parts := by
  rw [splitRight]
  constructor
  · intro h
    split at h
    · cases h
    · rename_i before part' hcut
      obtain ⟨hpart, hcs⟩ := lastHyphen?_eq_some_iff.1 hcut
      obtain ⟨rfl, hrest⟩ := List.cons.inj h
      exact ⟨before, hpart, hcs, hrest⟩
  · rintro ⟨before, hpart, hcs, hrest⟩
    rw [lastHyphen?_eq_some_iff.2 ⟨hpart, hcs⟩, ← hrest]

/-- A name has four parts if it has three hyphens: the last part has no hyphen, nor have the two
before it. -/
theorem splitRight_eq_four_iff {name patch minor major file : List Char} :
    splitRight 3 name = [patch, minor, major, file] ↔
      ('-' ∉ patch ∧ '-' ∉ minor ∧ '-' ∉ major) ∧
        name = file ++ '-' :: (major ++ '-' :: (minor ++ '-' :: patch)) := by
  constructor
  · intro h
    obtain ⟨_, hpatch, rfl, hthree⟩ := splitRight_succ_eq_cons_cons_iff.1 h
    obtain ⟨_, hminor, rfl, htwo⟩ := splitRight_succ_eq_cons_cons_iff.1 hthree
    obtain ⟨rest, hmajor, rfl, hone⟩ := splitRight_succ_eq_cons_cons_iff.1 htwo
    obtain rfl : rest = file := List.singleton_inj.1 hone
    exact ⟨⟨hpatch, hminor, hmajor⟩, by simp⟩
  · rintro ⟨⟨hpatch, hminor, hmajor⟩, rfl⟩
    refine splitRight_succ_eq_cons_cons_iff.2 ⟨file ++ '-' :: (major ++ '-' :: minor), hpatch,
      by simp, ?_⟩
    refine splitRight_succ_eq_cons_cons_iff.2 ⟨file ++ '-' :: major, hminor, by simp, ?_⟩
    exact splitRight_succ_eq_cons_cons_iff.2 ⟨file, hmajor, rfl, rfl⟩

/-- A name is taken apart into a file name and a version if it is made of the two. -/
theorem splitVersion?_eq_some_iff {name : List Char} :
    splitVersion? name = some (file, version) ↔
      file ≠ [] ∧ IsVersion version ∧ name = file ++ '-' :: version := by
  constructor
  · intro h
    rw [splitVersion?] at h
    split at h
    · rename_i patch minor major file' hparts
      obtain ⟨-, hname⟩ := splitRight_eq_four_iff.1 hparts
      split at h
      · rename_i hruns
        cases h
        simp only [List.all_cons, List.all_nil, Bool.and_true, Bool.and_eq_true, isDigitRun_iff,
          Bool.not_eq_true', List.isEmpty_eq_false_iff] at hruns
        obtain ⟨⟨hpatch, hminor, hmajor⟩, hfile⟩ := hruns
        exact ⟨hfile, ⟨major, minor, patch, hmajor, hminor, hpatch, rfl⟩, hname⟩
      · cases h
    · cases h
  · rintro ⟨hfile, ⟨major, minor, patch, hmajor, hminor, hpatch, rfl⟩, rfl⟩
    -- the file name may hold hyphens, and is what is left before the third one from the right
    have hparts : splitRight 3 (file ++ '-' :: (major ++ '-' :: (minor ++ '-' :: patch))) =
        [patch, minor, major, file] :=
      splitRight_eq_four_iff.2
        ⟨⟨hpatch.hyphen_not_mem, hminor.hyphen_not_mem, hmajor.hyphen_not_mem⟩, rfl⟩
    rw [splitVersion?, hparts]
    simp [isDigitRun_iff.2 hpatch, isDigitRun_iff.2 hminor, isDigitRun_iff.2 hmajor, hfile]

/-! ## Units -/

/-- A name of the convention denotes the unit of its parts. -/
theorem parse_of_versioned {file version : String} (h : Versioned name file version) :
    parse name = ⟨name, file, version, false⟩ := by
  have hsplit : splitVersion? name.toList = some (file.toList, version.toList) :=
    splitVersion?_eq_some_iff.2 ⟨by simpa using h.file_ne, h.isVersion, by simp [h.name_eq]⟩
  rw [parse, hsplit]
  simp

/-- Any other name denotes a unit without a version. -/
theorem parse_of_not_versioned (h : ¬∃ file version, Versioned name file version) :
    parse name = ⟨name, name, "", false⟩ := by
  rw [parse]
  cases hsplit : splitVersion? name.toList with
  | none => rfl
  | some parts =>
    obtain ⟨file, version⟩ := parts
    obtain ⟨hfile, hversion, hname⟩ := splitVersion?_eq_some_iff.1 hsplit
    refine absurd ⟨String.ofList file, String.ofList version, by simpa using hfile, ?_, ?_⟩ h
    · simpa using hversion
    · exact String.toList_inj.1 (by simp [hname])

theorem name_parse (name : String) : (parse name).name = name := by
  rw [parse]
  split <;> rfl

/-- A version is never empty, so that an empty one tells that there is none. -/
theorem version_parse_ne_iff :
    (parse name).version ≠ "" ↔ ∃ file version, Versioned name file version := by
  by_cases h : ∃ file version, Versioned name file version
  · obtain ⟨file, version, hparts⟩ := h
    have hversion : version ≠ "" := by simpa using hparts.isVersion.ne_nil
    rw [parse_of_versioned hparts]
    exact iff_of_true hversion ⟨file, version, hparts⟩
  · rw [parse_of_not_versioned h]
    exact iff_of_false (fun hne => hne rfl) h

/-- **Names are taken apart just as the convention says.**  The version of a unit is empty unless
its name is a name of the convention.  Then file name and version are the parts that it is made of,
and else the file name is the whole name. -/
theorem parse_follows_convention (name : String) :
    (parse name).name = name ∧
      ((parse name).version ≠ "" ↔ ∃ file version, Versioned name file version) ∧
      (∀ file version, Versioned name file version →
        (parse name).filename = file ∧ (parse name).version = version ∧
          (parse name).filename ++ "-" ++ (parse name).version = name) ∧
      ((¬∃ file version, Versioned name file version) →
        (parse name).filename = name ∧ (parse name).version = "") := by
  refine ⟨name_parse name, version_parse_ne_iff, fun file version hparts => ?_, fun hnone => ?_⟩
  · rw [parse_of_versioned hparts]
    exact ⟨rfl, rfl, hparts.name_eq.symm⟩
  · rw [parse_of_not_versioned hnone]
    exact ⟨rfl, rfl⟩

example : parse "7-zip-1-22-333-4" = ⟨"7-zip-1-22-333-4", "7-zip-1", "22-333-4", false⟩ := by
  decide +kernel

end SoftwareUnit
end FlowAtlas
