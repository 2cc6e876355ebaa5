import Mathlib.Data.List.Chain
import Mathlib.Data.List.SplitBy
import Mousstec.Ecu.FrmRecovery

/-!
# The judgement of a rebuilt module

A rebuilt image is a filler with a VIN, an option block and a checksum in their
places.  The filler separates the runs of the image, so that the judgement
depends on its VIN and its option block only.
-/

namespace Mousstec

namespace Frm

section Runs

variable {α : Type} {value separator : α} {count : ℕ} {before after : List α}

theorem replicate_prefix_separated (other : separator ≠ value)
    (starts : List.replicate count value <+: before ++ separator :: after) :
    List.replicate count value <+: before := by
  induction before generalizing count with
  | nil =>
      cases count with
      | zero => exact List.nil_prefix
      | succ count =>
          rw [List.replicate_succ, List.nil_append,
            List.cons_prefix_cons] at starts
          exact absurd starts.1.symm other
  | cons first before induction =>
      cases count with
      | zero => exact List.nil_prefix
      | succ count =>
          rw [List.replicate_succ, List.cons_append,
            List.cons_prefix_cons] at starts
          rw [List.replicate_succ, List.cons_prefix_cons]
          exact ⟨starts.1, induction starts.2⟩

/-- A run lies on one side of every other value. -/
theorem replicate_infix_separated (other : separator ≠ value)
    (run : List.replicate count value <:+: before ++ separator :: after) :
    List.replicate count value <:+: before ∨
      List.replicate count value <:+: after := by
  induction before with
  | nil =>
      rw [List.nil_append, List.infix_cons_iff] at run
      rcases run with starts | run
      · left
        exact (@replicate_prefix_separated _ _ _ _ [] _ other starts).isInfix
      · exact .inr run
  | cons first before induction =>
      rw [List.cons_append, List.infix_cons_iff] at run
      rcases run with starts | run
      · left
        exact (@replicate_prefix_separated _ _ _ _ (first :: before) _ other
          starts).isInfix
      · rcases induction run with run | run
        · exact .inl (List.infix_cons run)
        · exact .inr run

theorem replicate_infix_of_others (positive : 0 < count)
    (others : ∀ other ∈ before, other ≠ value)
    (run : List.replicate count value <:+: before ++ after) :
    List.replicate count value <:+: after := by
  induction before with
  | nil => exact run
  | cons first before induction =>
      have separated := @replicate_infix_separated _ _ _ _ [] (before ++ after)
        (others first List.mem_cons_self) run
      rcases separated with run | run
      · have none := (List.replicate_eq_nil_iff _).mp (List.infix_nil.mp run)
        omega
      · exact induction (fun other member =>
          others other (List.mem_cons_of_mem _ member)) run

end Runs

theorem countUniformRuns_eq_zero {raw : List UInt8} {minimum : ℕ}
    (none : ∀ value, value = 0x00 ∨ value = 0xFF →
      ¬List.replicate minimum value <:+: raw) :
    countUniformRuns raw minimum = 0 := by
  rw [countUniformRuns, List.countP_eq_zero]
  intro run member
  rw [decide_eq_true_eq]
  rintro ⟨head, long⟩
  have chain : run.IsChain (· = ·) :=
    (List.isChain_of_mem_splitBy member).imp fun _ _ same => beq_iff_eq.mp same
  have inside : run <:+: raw := by
    have flat := List.infix_of_mem_flatten member
    rwa [List.flatten_splitBy] at flat
  have constant := List.isChain_eq_iff_eq_replicate.mp chain
  have contained : ∀ value, run.head? = some value →
      List.replicate minimum value <:+: raw := by
    intro value head
    refine List.IsInfix.trans (List.IsPrefix.isInfix ?_) inside
    rw [constant value (Option.mem_def.mpr head)]
    exact List.prefix_replicate_iff.mpr (by simpa using long)
  rcases head with head | head
  · exact none _ (.inl rfl) (contained _ head)
  · exact none _ (.inr rfl) (contained _ head)

theorem countUniformRuns_append {left right : List UInt8} {minimum : ℕ}
    (edge : ∀ last ∈ left.getLast?, ∀ first ∈ right.head?,
      (last == first) = false) :
    countUniformRuns (left ++ right) minimum =
      countUniformRuns left minimum + countUniformRuns right minimum := by
  rw [countUniformRuns, List.splitBy_append edge, List.countP_append]
  rfl

theorem looksLikeFa_zeros (fewer : ℕ) :
    looksLikeFa (List.replicate (fewer + 1) 0x00) = true := by
  apply decide_eq_true
  refine ⟨List.cons_ne_nil _ _, ?_⟩
  rw [List.count_replicate, List.length_replicate, if_neg (by decide)]
  omega

theorem looksLikeFa_ones (length : ℕ) :
    looksLikeFa (List.replicate length 0xFF) = false := by
  apply decide_eq_false
  rintro ⟨-, few⟩
  rw [List.count_replicate_self, List.length_replicate] at few
  omega

theorem countUniformRuns_zeros (fewer : ℕ) :
    countUniformRuns (List.replicate (fewer + 1) 0x00) (fewer + 1) = 1 := by
  rw [countUniformRuns, List.replicate_succ, List.splitBy_of_isChain
    (List.cons_ne_nil _ _) (List.isChain_replicate_of_rel (fewer + 1) rfl),
    List.countP_singleton, if_pos]
  rw [decide_eq_true_eq]
  exact ⟨.inl rfl, by simp⟩

/-- A block of zeros between fillers counts. -/
theorem countUniformRuns_wiped {left right : List UInt8} (fewer : ℕ) :
    0 < countUniformRuns (left ++ [0xCD] ++
      (List.replicate (fewer + 1) 0x00 ++ 0xCD :: right)) (fewer + 1) := by
  have block : countUniformRuns (List.replicate (fewer + 1) 0x00 ++
      0xCD :: right) (fewer + 1) =
        1 + countUniformRuns (0xCD :: right) (fewer + 1) := by
    rw [countUniformRuns_append (by simp [List.getLast?_replicate]),
      countUniformRuns_zeros]
  have apart := @countUniformRuns_append (left ++ [0xCD])
    (List.replicate (fewer + 1) 0x00 ++ 0xCD :: right) (fewer + 1)
    (by simp [List.replicate_succ])
  rw [apart, block]
  omega

/-- The places of an image are apart, the checksum is its last byte, and no run
fits its option block but one that fills it. -/
structure Layout (profile : FrmProfile) : Prop where
  starts : 0 < profile.vinOffset
  vinLength : profile.vinLength = 17
  vin : profile.vinOffset + profile.vinLength < profile.faOffset
  options : profile.faOffset + profile.faLength < profile.checksumOffset
  checksum : profile.checksumOffset + 1 = profile.dflashSize
  short : profile.faLength ≤ 256

theorem layout (variant : FrmVariant) : Layout (getFrmProfile variant) := by
  cases variant <;> constructor <;> decide

theorem overlay_append {left middle right bytes : List UInt8} {offset : ℕ}
    (before : left.length = offset) (length : middle.length = bytes.length) :
    overlay (left ++ (middle ++ right)) offset bytes =
      left ++ (bytes ++ right) := by
  have rest : (left ++ (middle ++ right)).drop (offset + bytes.length) =
      right := by
    rw [← List.append_assoc, List.drop_left']
    rw [List.length_append, before, length]
  rw [overlay, List.take_left' before, rest, List.append_assoc]

theorem window_append {left middle right : List UInt8} {offset length : ℕ}
    (before : left.length = offset) (long : middle.length = length) :
    window (left ++ (middle ++ right)) offset length = middle := by
  rw [window, List.drop_left' before, List.take_left' long]

section Image

variable {profile : FrmProfile} {vin options : List UInt8}

def gap (profile : FrmProfile) : ℕ :=
  profile.faOffset - profile.vinOffset - profile.vinLength

def trail (profile : FrmProfile) : ℕ :=
  profile.checksumOffset - profile.faOffset - profile.faLength

def filler (length : ℕ) : List UInt8 :=
  List.replicate length 0xCD

def imageWith (profile : FrmProfile) (vin options : List UInt8)
    (last : UInt8) : List UInt8 :=
  filler profile.vinOffset ++ (vin ++ (filler (gap profile) ++
    (options ++ (filler (trail profile) ++ [last]))))

def imageBody (profile : FrmProfile) (vin options : List UInt8) :
    List UInt8 :=
  filler profile.vinOffset ++ (vin ++ (filler (gap profile) ++
    (options ++ filler (trail profile))))

def image (profile : FrmProfile) (vin options : List UInt8) : List UInt8 :=
  imageWith profile vin options (xorChecksum (imageBody profile vin options))

theorem imageWith_eq (last : UInt8) : imageWith profile vin options last =
    imageBody profile vin options ++ [last] := by
  simp only [imageWith, imageBody, List.append_assoc]

@[simp] theorem filler_length (length : ℕ) : (filler length).length = length :=
  List.length_replicate

theorem filler_succ (length : ℕ) :
    filler (length + 1) = 0xCD :: filler length :=
  rfl

theorem filler_succ' (length : ℕ) :
    filler (length + 1) = filler length ++ [0xCD] :=
  List.replicate_succ'

def vinBytes (vin : String) : List UInt8 :=
  vin.toList.map fun char => UInt8.ofNat char.toNat

def templateOptions (profile : FrmProfile) : List UInt8 :=
  (List.range profile.faLength).map fun index =>
    UInt8.ofNat (index * 73) ^^^ 0x5A

@[simp] theorem templateOptions_length :
    (templateOptions profile).length = profile.faLength := by
  simp [templateOptions]

variable (laid : Layout profile) (named : vin.length = profile.vinLength)
  (block : options.length = profile.faLength)

include named in
theorem overlay_vin {other : List UInt8} (last : UInt8)
    (length : other.length = profile.vinLength) :
    overlay (imageWith profile other options last) profile.vinOffset vin =
      imageWith profile vin options last :=
  overlay_append (filler_length _) (length.trans named.symm)

include named in
theorem window_vin :
    window (image profile vin options) profile.vinOffset profile.vinLength =
      vin :=
  window_append (filler_length _) named

include laid named

theorem before_options :
    (filler profile.vinOffset ++ (vin ++ filler (gap profile))).length =
      profile.faOffset := by
  have places := laid.vin
  simp only [List.length_append, filler_length, named, gap]
  omega

include block

theorem window_options :
    window (image profile vin options) profile.faOffset profile.faLength =
      options := by
  have read := @window_append _ _ (filler (trail profile) ++
    [xorChecksum (imageBody profile vin options)]) _ _
      (before_options laid named) block
  simpa only [image, imageWith, List.append_assoc] using read

theorem overlay_options {other : List UInt8} (last : UInt8)
    (length : other.length = profile.faLength) :
    overlay (imageWith profile vin other last) profile.faOffset options =
      imageWith profile vin options last := by
  have written := @overlay_append _ _ (filler (trail profile) ++ [last]) _ _
    (before_options laid named) (length.trans block.symm)
  simpa only [imageWith, List.append_assoc] using written

theorem imageBody_length :
    (imageBody profile vin options).length = profile.checksumOffset := by
  have places := laid.vin
  have places' := laid.options
  simp only [imageBody, List.length_append, filler_length, named, block, gap,
    trail]
  omega

theorem image_length :
    (image profile vin options).length = profile.dflashSize := by
  rw [image, imageWith_eq, List.length_append,
    imageBody_length laid named block, ← laid.checksum]
  rfl

theorem withChecksum_imageWith (last : UInt8) :
    withChecksum profile (imageWith profile vin options last) =
      image profile vin options := by
  have length := imageBody_length laid named block
  rw [withChecksum, imageWith_eq, List.take_left' length, image, imageWith_eq,
    List.set_append_right _ _ length.le, length, Nat.sub_self]
  rfl

theorem image_checksum :
    xorChecksum ((image profile vin options).take profile.checksumOffset) =
      (image profile vin options).getD profile.checksumOffset 0 := by
  have length := imageBody_length laid named block
  rw [image, imageWith_eq, List.take_left' length,
    List.getD_eq_getElem?_getD, List.getElem?_append_right length.le, length,
    Nat.sub_self]
  rfl

end Image

section Judged

variable {profile : FrmProfile} {vin options : List UInt8}
  (laid : Layout profile) (visible : looksLikeVin vin = true)
  (block : options.length = profile.faLength)
  (readable : looksLikeFa options = true)

include laid visible block readable

/-- A run of an image that is judged fills its option block. -/
theorem image_runs : countUniformRuns (image profile vin options) 256 = 0 ↔
    options ≠ List.replicate 256 0x00 := by
  have places := laid.vin
  have places' := laid.options
  obtain ⟨fewer, gapped⟩ : ∃ fewer, gap profile = fewer + 1 :=
    ⟨gap profile - 1, by rw [gap]; omega⟩
  obtain ⟨fewer', trailed⟩ : ∃ fewer', trail profile = fewer' + 1 :=
    ⟨trail profile - 1, by rw [trail]; omega⟩
  generalize checked : xorChecksum (imageBody profile vin options) = last
  constructor
  · intro none wiped
    have parts : image profile vin options =
        (filler profile.vinOffset ++ vin ++ filler fewer ++ [0xCD]) ++
          (options ++ 0xCD :: (filler fewer' ++ [last])) := by
      rw [image, imageWith, checked, gapped, trailed, filler_succ',
        filler_succ]
      simp only [List.append_assoc, List.cons_append]
    rw [parts, wiped] at none
    exact (countUniformRuns_wiped 255).ne' none
  · intro other
    apply countUniformRuns_eq_zero
    intro value uniform run
    have fills : ∀ length, ∀ byte ∈ filler length, byte ≠ value := by
      rintro length byte member rfl
      rw [List.eq_of_mem_replicate member] at uniform
      revert uniform
      decide
    have names : ∀ byte ∈ vin, byte ≠ value := by
      rintro byte member rfl
      have printed := decide_eq_true_eq.mp
        (List.all_eq_true.mp (decide_eq_true_eq.mp visible).2 byte member)
      rcases uniform with rfl | rfl
      · exact absurd printed (by decide)
      · exact absurd printed (by decide)
    rw [image, imageWith, checked] at run
    have run := replicate_infix_of_others (by decide) (fills _) run
    have run := replicate_infix_of_others (by decide) names run
    have run := replicate_infix_of_others (by decide) (fills _) run
    rw [trailed, filler_succ, List.cons_append] at run
    rcases replicate_infix_separated
      (fills 1 _ (List.mem_singleton_self _)) run with run | run
    · have filled := run.eq_of_length_le (by
        rw [List.length_replicate, block]
        exact laid.short)
      rcases uniform with rfl | rfl
      · exact other filled.symm
      · rw [← filled, looksLikeFa_ones 256] at readable
        cases readable
    · have short := (replicate_infix_of_others (by decide)
        (fills fewer') run).length_le
      rw [List.length_replicate] at short
      exact absurd short (by simp)

omit laid visible block readable in
theorem verdict_healthy {vinOk faOk checksumOk : Bool} {runs : ℕ} :
    (verdict vinOk faOk checksumOk runs).1 = .healthy ↔
      vinOk ∧ faOk ∧ checksumOk ∧ runs = 0 := by
  constructor
  · intro healthy
    by_contra other
    rw [verdict, if_neg other] at healthy
    split at healthy
    · cases healthy
    · split at healthy <;> cases healthy
  · intro all
    rw [verdict, if_pos all]

theorem image_healthy :
    (analyzeDflash (image profile vin options) profile).level = .healthy ↔
      options ≠ List.replicate 256 0x00 := by
  have named : vin.length = profile.vinLength := by
    rw [laid.vinLength]
    exact (decide_eq_true_eq.mp visible).1
  have size := image_length laid named block
  have mixed : ¬((image profile vin options).all (· = 0xFF) ∨
      (image profile vin options).all (· = 0x00)) := by
    have first : (0xCD : UInt8) ∈ image profile vin options := by
      rw [image, imageWith]
      exact List.mem_append_left _ (List.mem_replicate.mpr
        ⟨laid.starts.ne', rfl⟩)
    rintro (uniform | uniform)
    · exact absurd (List.all_eq_true.mp uniform _ first) (by decide)
    · exact absurd (List.all_eq_true.mp uniform _ first) (by decide)
  rw [analyzeDflash, if_neg (not_not_intro size), if_neg mixed]
  simp only [window_vin named, window_options laid named block, verdict_healthy]
  rw [image_runs laid visible block readable, and_iff_right visible,
    and_iff_right readable, and_iff_right]
  exact beq_iff_eq.mpr (image_checksum laid named block)

end Judged

theorem buildTemplateBlob_eq {profile : FrmProfile} (laid : Layout profile) :
    buildTemplateBlob profile = image profile
      (List.replicate profile.vinLength 0x58) (templateOptions profile) := by
  have places := laid.vin
  have places' := laid.options
  have blank : List.replicate profile.dflashSize 0xCD =
      imageWith profile (filler profile.vinLength) (filler profile.faLength)
        0xCD := by
    have last : [(0xCD : UInt8)] = List.replicate 1 0xCD := rfl
    rw [imageWith, last]
    simp only [filler, List.replicate_append_replicate, gap, trail]
    rw [← laid.checksum]
    congr 1
    omega
  rw [buildTemplateBlob, blank]
  rw [overlay_vin List.length_replicate _ (filler_length _)]
  change withChecksum profile
    (overlay (imageWith profile _ _ 0xCD) _ (templateOptions profile)) = _
  rw [overlay_options laid List.length_replicate templateOptions_length _
    (filler_length _), withChecksum_imageWith laid List.length_replicate
    templateOptions_length]

theorem looksLikeVin_vinBytes {vin : String} (valid : validVin vin = true) :
    looksLikeVin (vinBytes vin) = true := by
  obtain ⟨length, chars⟩ := decide_eq_true_eq.mp valid
  apply decide_eq_true
  refine ⟨(List.length_map _).trans length, List.all_eq_true.mpr ?_⟩
  intro byte member
  obtain ⟨char, among, rfl⟩ := List.mem_map.mp member
  have shown := decide_eq_true_eq.mp (List.all_eq_true.mp chars char among)
  simp only [Char.le_def, UInt32.le_iff_toNat_le] at shown
  have value : (UInt8.ofNat char.toNat).toNat = char.toNat := by
    rw [UInt8.toNat_ofNat']
    apply Nat.mod_eq_of_lt
    simp at shown
    omega
  apply decide_eq_true
  left
  rw [UInt8.le_iff_toNat_le, UInt8.le_iff_toNat_le, value]
  change 48 ≤ char.toNat ∧ char.toNat ≤ 90
  simp at shown
  omega

def chosenOptions (profile : FrmProfile) (dump : List UInt8)
    (faRecoverable : Bool) : List UInt8 :=
  if faRecoverable then window dump profile.faOffset profile.faLength
  else templateOptions profile

theorem window_length {profile : FrmProfile} (laid : Layout profile)
    {dump : List UInt8} (size : dump.length = profile.dflashSize) :
    (window dump profile.faOffset profile.faLength).length =
      profile.faLength := by
  have places := laid.options
  have last := laid.checksum
  rw [window, List.length_take, List.length_drop]
  omega

theorem rebuildDflash_eq {profile : FrmProfile} (laid : Layout profile)
    {dump : List UInt8} {vin : String} (size : dump.length = profile.dflashSize)
    (valid : validVin vin = true) (faRecoverable : Bool) :
    rebuildDflash profile dump vin faRecoverable = .ok
      { rebuiltBytes := image profile (vinBytes vin)
          (chosenOptions profile dump faRecoverable)
        templateVersion := "stub_v1"
        vinUsed := vin
        faCarriedOver := faRecoverable } := by
  have named : (vinBytes vin).length = profile.vinLength := by
    rw [laid.vinLength]
    exact (decide_eq_true_eq.mp (looksLikeVin_vinBytes valid)).1
  rw [rebuildDflash, if_neg (not_not_intro valid), if_neg (not_not_intro size),
    buildTemplateBlob_eq laid, image]
  simp only
  rw [← vinBytes, overlay_vin named _ List.length_replicate]
  cases faRecoverable with
  | false =>
      simp only [Bool.false_eq_true, if_false]
      rw [withChecksum_imageWith laid named templateOptions_length]
      rfl
  | true =>
      simp only [if_true]
      rw [overlay_options laid named (window_length laid size) _
          templateOptions_length,
        withChecksum_imageWith laid named (window_length laid size)]
      rfl

/-- What a rebuild is for: the image has the right size, is healthy, shows the
VIN and keeps the options of the dump where they are carried over. -/
def Accepted (profile : FrmProfile) (dump : List UInt8) (vin : String) :
    Prop :=
  ∃ result,
    rebuildDflash profile dump vin (analyzeDflash dump profile).faRecoverable =
        .ok result ∧
      result.rebuiltBytes.length = profile.dflashSize ∧
      (analyzeDflash result.rebuiltBytes profile).level = .healthy ∧
      window result.rebuiltBytes profile.vinOffset profile.vinLength =
        vinBytes vin ∧
      (result.faCarriedOver = true →
        window result.rebuiltBytes profile.faOffset profile.faLength =
          window dump profile.faOffset profile.faLength)

/-- An option block of zeros in a dump that is not all zeros. -/
def Wiped (profile : FrmProfile) (dump : List UInt8) : Prop :=
  window dump profile.faOffset profile.faLength = List.replicate 256 0x00 ∧
    ¬dump.all (· = 0x00)

section Accepted

variable {profile : FrmProfile} {dump : List UInt8}
  (size : dump.length = profile.dflashSize)

include size

theorem faRecoverable_iff :
    (analyzeDflash dump profile).faRecoverable = true ↔
      ¬(dump.all (· = 0xFF) ∨ dump.all (· = 0x00)) ∧
        looksLikeFa (window dump profile.faOffset profile.faLength) = true := by
  rw [analyzeDflash, if_neg (not_not_intro size)]
  by_cases uniform : dump.all (· = 0xFF) ∨ dump.all (· = 0x00)
  · rw [if_pos uniform]
    constructor
    · intro recoverable
      cases recoverable
    · exact fun readable => absurd uniform readable.1
  · rw [if_neg uniform, and_iff_right uniform]

/-- Options of zeros are taken for readable. -/
theorem faRecoverable_of_wiped (wiped : Wiped profile dump) :
    (analyzeDflash dump profile).faRecoverable = true := by
  rw [faRecoverable_iff size, wiped.1]
  refine ⟨?_, looksLikeFa_zeros 255⟩
  rintro (uniform | uniform)
  · have zero : (0x00 : UInt8) ∈ dump := by
      apply List.mem_of_mem_drop
      apply List.mem_of_mem_take
      change _ ∈ window dump profile.faOffset profile.faLength
      rw [wiped.1]
      exact List.mem_replicate.mpr ⟨by decide, rfl⟩
    exact absurd (List.all_eq_true.mp uniform _ zero) (by decide)
  · exact wiped.2 uniform

variable (laid : Layout profile) {vin : String} (valid : validVin vin = true)
include laid valid

theorem not_accepted_of_wiped (wiped : Wiped profile dump) :
    ¬Accepted profile dump vin := by
  rintro ⟨result, rebuilt, -, healthy, -⟩
  rw [faRecoverable_of_wiped size wiped,
    rebuildDflash_eq laid size valid] at rebuilt
  cases rebuilt
  have readable : looksLikeFa (chosenOptions profile dump true) = true := by
    rw [chosenOptions, if_pos rfl, wiped.1]
    exact looksLikeFa_zeros 255
  exact (image_healthy laid (looksLikeVin_vinBytes valid)
    (window_length laid size) readable).mp healthy wiped.1

theorem accepted_of_not_wiped
    (template : looksLikeFa (templateOptions profile) = true)
    (regular : templateOptions profile ≠ List.replicate 256 0x00)
    (sound : ¬Wiped profile dump) : Accepted profile dump vin := by
  have named : (vinBytes vin).length = profile.vinLength := by
    rw [laid.vinLength]
    exact (decide_eq_true_eq.mp (looksLikeVin_vinBytes valid)).1
  have judged : ∀ options : List UInt8, options.length = profile.faLength →
      looksLikeFa options = true → options ≠ List.replicate 256 0x00 →
      (analyzeDflash (image profile (vinBytes vin) options) profile).level =
        .healthy := fun options block readable other =>
    (image_healthy laid (looksLikeVin_vinBytes valid) block readable).mpr other
  cases report : (analyzeDflash dump profile).faRecoverable with
  | false =>
      rw [Accepted, report, rebuildDflash_eq laid size valid]
      refine ⟨_, rfl, image_length laid named templateOptions_length,
        judged _ templateOptions_length template regular, window_vin named,
        fun carried => by cases carried⟩
  | true =>
      have readable := (faRecoverable_iff size).mp report
      have block := window_length laid size
      rw [Accepted, report, rebuildDflash_eq laid size valid]
      refine ⟨_, rfl, image_length laid named block,
        judged _ block readable.2 fun zeros => ?_, window_vin named,
        fun _ => window_options laid named block⟩
      exact sound ⟨zeros, fun uniform => readable.1 (.inr uniform)⟩

end Accepted

/-- A rebuilt image is accepted unless the options of a dump that is not all
zeros are: these are carried over as readable and are a run of the image. -/
theorem accepted_iff (variant : FrmVariant) (dump : List UInt8) (vin : String)
    (size : dump.length = (getFrmProfile variant).dflashSize)
    (valid : validVin vin = true) :
    Accepted (getFrmProfile variant) dump vin ↔
      ¬Wiped (getFrmProfile variant) dump := by
  constructor
  · exact fun accepted wiped =>
      not_accepted_of_wiped size (layout variant) valid wiped accepted
  · apply accepted_of_not_wiped size (layout variant) valid
    · cases variant <;> decide +kernel
    · cases variant <;> decide +kernel

def dumpWith (options : List UInt8) : List UInt8 :=
  filler 512 ++ (options ++ filler 7424)

theorem dumpWith_length {options : List UInt8} (block : options.length = 256) :
    (dumpWith options).length = (getFrmProfile .e90).dflashSize := by
  simp only [dumpWith, List.length_append, filler_length, block]
  rfl

/-- Options of zeros but for their last byte are carried over. -/
theorem accepted_carried : Accepted (getFrmProfile .e90)
    (dumpWith (List.replicate 255 0x00 ++ [0x01])) "WBAVB13506PT12345" := by
  refine (accepted_iff .e90 _ _ (dumpWith_length (by decide +kernel))
    (by decide +kernel)).mpr fun wiped => ?_
  have carried : window (dumpWith (List.replicate 255 0x00 ++ [0x01])) 512 256 =
      List.replicate 255 0x00 ++ [0x01] :=
    window_append (filler_length 512) (by decide +kernel)
  have zeros := carried.symm.trans wiped.1
  revert zeros
  decide +kernel

theorem not_all_accepted : ¬∀ (variant : FrmVariant) (dump : List UInt8)
    (vin : String), dump.length = (getFrmProfile variant).dflashSize →
      validVin vin = true → Accepted (getFrmProfile variant) dump vin := by
  intro all
  have size := dumpWith_length (@List.length_replicate UInt8 256 0x00)
  have valid : validVin "WBAVB13506PT12345" = true := by decide +kernel
  refine not_accepted_of_wiped size (layout .e90) valid ⟨?_, ?_⟩
    (all .e90 _ _ size valid)
  · exact window_append (filler_length 512) List.length_replicate
  · intro zeros
    have first : (0xCD : UInt8) ∈ dumpWith (List.replicate 256 0x00) :=
      List.mem_append_left _ (List.mem_replicate.mpr ⟨by decide, rfl⟩)
    exact absurd (List.all_eq_true.mp zeros _ first) (by decide)

end Frm

end Mousstec
