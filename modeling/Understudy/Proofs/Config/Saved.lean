import Understudy.Config
import Understudy.Proofs.Failure.Results
import Understudy.Proofs.Json.Field
import Understudy.Proofs.Json.RoundTrip

/-!
# Configurations that are saved and loaded again

What is saved for a configuration is the indented text of its record, so it is read back as that
record, and every field holds what it was given. A file that is accepted has counts below the limit
and passes validation, so what it describes is kept by saving and loading.
-/

namespace Understudy.Config

open Json

variable {config : Config} {disk : Disk} {path : Path}

/-- The counts of a configuration are below the limit of counts. -/
structure Fits (config : Config) : Prop where
  maxConcurrency : ∀ limit ∈ config.maxConcurrency, limit < Text.countLimit
  minLabelLength : config.signature.minLabelLength < Text.countLimit
  maxTypeLength : config.signature.maxTypeLength < Text.countLimit

theorem validate_eq_ok_iff :
    config.validate = .ok () ↔
      config.maxConcurrency ≠ some 0 ∧ config.signature.maxTypeLength ≠ 0 := by
  simp only [validate, beq_iff_eq]
  split_ifs with hconcurrency hlength
  · simp [hconcurrency]
  · simp [hlength]
  · simp [hconcurrency, hlength]

theorem wellFormed_policyJson (policy : SignaturePolicy) : (policyJson policy).WellFormed := by
  refine wellFormed_record ?_
  simp [wellFormed_natural]

theorem wellFormed_toJson (config : Config) : config.toJson.WellFormed := by
  obtain ⟨header, _, limit, _, _, _, _, _⟩ := config
  refine wellFormed_record ?_
  have hbool (value : Bool) : (Json.bool value).WellFormed := trivial
  cases header <;> cases limit <;>
    simp [wellFormed_text, wellFormed_texts, wellFormed_natural, wellFormed_policyJson, hbool]

theorem policyOf?_policyJson {policy : SignaturePolicy}
    (hlabel : policy.minLabelLength < Text.countLimit)
    (htype : policy.maxTypeLength < Text.countLimit) :
    policyOf? (policyJson policy) = some policy := by
  have hfields := @fieldsOf?_record policyFields
    [("min_label_len", natural policy.minLabelLength),
      ("max_type_len", natural policy.maxTypeLength)] (by simp [policyFields]) (by simp)
  rw [policyOf?, policyJson, hfields]
  simp [field_cons_self, field_cons_of_ne, asCount?_natural hlabel, asCount?_natural htype]

theorem orNull_asText?_text (value : String) : orNull asText? (text value) = some (some value) := by
  have hread := congrArg (Option.map some) (asText?_text value)
  exact hread

theorem orNull_asCount?_natural {count : Nat} (h : count < Text.countLimit) :
    orNull asCount? (natural count) = some (some count) := by
  have hread := congrArg (Option.map some) (asCount?_natural h)
  exact hread

theorem ofJson?_toJson (h : config.Fits) : ofJson? config.toJson = some config := by
  have hpolicy := policyOf?_policyJson h.minLabelLength h.maxTypeLength
  have hlimit := h.maxConcurrency
  obtain ⟨header, annotation, limit, custom, excluded, testable, isFinal, signature⟩ := config
  have hbool : asBool? (Json.bool isFinal) = some isFinal := rfl
  have hcount : ∀ count, limit = some count →
      orNull asCount? (natural count) = some (some count) :=
    fun count hsome => orNull_asCount?_natural (hlimit count hsome)
  rw [ofJson?, toJson, fieldsOf?_record _ (by cases header <;> cases limit <;> simp [fieldNames])
    (by cases header <;> cases limit <;> simp)]
  cases header <;> cases limit <;>
    simp [field_nil, field_cons_self, field_cons_of_ne, orNull_asText?_text, hcount, asText?_text,
      asTexts?_texts, hbool, hpolicy]

theorem read_saved (hvalid : config.validate = .ok ()) (hfits : config.Fits) :
    read config.saved = .ok config := by
  rw [read, saved, parse?_pretty config.wellFormed_toJson, Option.bind_some, ofJson?_toJson hfits]
  simp [hvalid, Except.map]

theorem lt_countLimit_of_field {fields : List (String × Json)} {name : String} {default count : Nat}
    (hdefault : default < Text.countLimit) (h : field fields name asCount? default = some count) :
    count < Text.countLimit := by
  unfold field at h
  split at h
  · next value _ =>
    cases value with
    | number literal => exact Text.lt_countLimit_of_count? h
    | _ => cases h
  · obtain rfl := Option.some.inj h
    exact hdefault

theorem lt_countLimit_of_optional {fields : List (String × Json)} {name : String}
    {limit? : Option Nat} (h : field fields name (orNull asCount?) none = some limit?) :
    ∀ limit ∈ limit?, limit < Text.countLimit := by
  rintro limit rfl
  unfold field at h
  split at h
  · next value _ =>
    cases value with
    | number literal =>
        obtain ⟨count, hcount, heq⟩ := Option.map_eq_some_iff.mp h
        obtain rfl := Option.some.inj heq
        exact Text.lt_countLimit_of_count? hcount
    | _ => cases h
  · cases h

theorem lt_countLimit_of_policyOf? {value : Json} {policy : SignaturePolicy}
    (h : policyOf? value = some policy) :
    policy.minLabelLength < Text.countLimit ∧ policy.maxTypeLength < Text.countLimit := by
  simp only [policyOf?, Option.bind_eq_bind, Option.bind_eq_some_iff] at h
  obtain ⟨fields, _, label, hlabel, type, htype, heq⟩ := h
  obtain rfl := Option.some.inj heq
  exact ⟨lt_countLimit_of_field (by decide) hlabel, lt_countLimit_of_field (by decide) htype⟩

theorem fits_of_ofJson? {value : Json} (h : ofJson? value = some config) : config.Fits := by
  simp only [ofJson?, Option.bind_eq_bind, Option.bind_eq_some_iff] at h
  obtain ⟨fields, _, _, _, _, _, limit, hlimit, _, _, _, _, _, _, _, _, policy, hpolicy, heq⟩ := h
  obtain rfl := Option.some.inj heq
  have hcounts : policy.minLabelLength < Text.countLimit ∧
      policy.maxTypeLength < Text.countLimit := by
    unfold field at hpolicy
    split at hpolicy
    · exact lt_countLimit_of_policyOf? hpolicy
    · obtain rfl := Option.some.inj hpolicy
      decide
  exact ⟨lt_countLimit_of_optional hlimit, hcounts.1, hcounts.2⟩

/-- What is accepted passes validation and has counts below the limit. -/
theorem of_read_eq_ok {text : String} (h : read text = .ok config) :
    config.validate = .ok () ∧ config.Fits := by
  unfold read at h
  split at h
  · cases h
  · next found hfound =>
    obtain ⟨value, _, hvalue⟩ := Option.bind_eq_some_iff.mp hfound
    obtain ⟨valid, hvalid, rfl⟩ := exists_of_map_eq_ok h
    exact ⟨hvalid, fits_of_ofJson? hvalue⟩

theorem readText_eq_ok_iff {text : String} :
    Workspace.readText disk path = .ok text ↔ disk path = .ok (Text.Utf8.encode text.toList) := by
  rw [Workspace.readText]
  cases disk path with
  | error fault => simp
  | ok bytes =>
      simp only [Except.ok.injEq]
      rw [eq_comm (b := Text.Utf8.encode text.toList), ← Text.Utf8.decode_eq_ok_iff]
      cases Text.Utf8.decode bytes with
      | error fault => simp
      | ok found => simp [← String.toList_inj]

theorem load_eq_ok_iff :
    load disk path = .ok config ↔
      ∃ text : String, disk path = .ok (Text.Utf8.encode text.toList) ∧ read text = .ok config := by
  simp only [← readText_eq_ok_iff, load]
  cases Workspace.readText disk path with
  | error fault => simp
  | ok text => simp

/-- **Saving and loading.** A configuration that passes validation is loaded again from a file that
holds what is saved for it. So is one that was loaded from any file, and that one allows some work
and gives a type name some length. -/
theorem load_saved :
    (∀ (config : Config) (disk : Disk) (path : Path), config.validate = .ok () → config.Fits →
      disk path = .ok (Text.Utf8.encode config.saved.toList) → load disk path = .ok config) ∧
    ∀ (config : Config) (disk : Disk) (path : Path), load disk path = .ok config →
      config.maxConcurrency ≠ some 0 ∧ config.signature.maxTypeLength ≠ 0 ∧
      ∀ (later : Disk) (place : Path),
        later place = .ok (Text.Utf8.encode config.saved.toList) →
          load later place = .ok config := by
  constructor
  · intro config disk path hvalid hfits hdisk
    exact load_eq_ok_iff.mpr ⟨_, hdisk, read_saved hvalid hfits⟩
  · intro config disk path hload
    obtain ⟨text, _, hread⟩ := load_eq_ok_iff.mp hload
    obtain ⟨hvalid, hfits⟩ := of_read_eq_ok hread
    obtain ⟨hconcurrency, hlength⟩ := validate_eq_ok_iff.mp hvalid
    refine ⟨hconcurrency, hlength, fun later place hlater => ?_⟩
    exact load_eq_ok_iff.mpr ⟨_, hlater, read_saved hvalid hfits⟩

/-- The header holds a quote, a backslash, control characters and characters of two to four bytes,
and the counts are as large as they can be. -/
def variedConfig : Config :=
  { header := some "// \"Api\\\t\u0001\u007f\n\u00e9\u2028😀"
    annotation := ""
    maxConcurrency := some (Text.countLimit - 1)
    customImports := ["Kit", ""]
    testableImports := ["App\r"]
    mockFinal := true
    signature := { minLabelLength := 0, maxTypeLength := Text.countLimit - 1 } }

/-- A file with a field that is not known, fields out of order, and an escaped surrogate pair. -/
def looseText : String :=
  "\x7b\"signature\": \x7b\"max_type_len\": 8\x7d, \"other\": [1.5e3, null], " ++
    "\"header\": \"\\ud83d\\ude00\"\x7d"

def looseConfig : Config :=
  { header := some "😀", signature := { maxTypeLength := 8 } }

def holding (text : String) : Disk :=
  fun _ => .ok (Text.Utf8.encode text.toList)

theorem load_saved_of_variedConfig :
    variedConfig.validate = .ok () ∧ variedConfig.Fits ∧
    load (holding variedConfig.saved) fileName = .ok variedConfig ∧
    load (holding looseText) fileName = .ok looseConfig ∧
    load (holding looseConfig.saved) fileName = .ok looseConfig := by
  have hvalid : variedConfig.validate = .ok () := rfl
  have hfits : variedConfig.Fits := ⟨by rintro _ ⟨⟩; decide, by decide, by decide⟩
  have hread : read looseText = .ok looseConfig := by decide +kernel
  have hloose : load (holding looseText) fileName = .ok looseConfig :=
    load_eq_ok_iff.mpr ⟨_, rfl, hread⟩
  exact ⟨hvalid, hfits, load_saved.1 _ _ _ hvalid hfits rfl, hloose,
    (load_saved.2 _ _ _ hloose).2.2 _ _ rfl⟩

end Understudy.Config
