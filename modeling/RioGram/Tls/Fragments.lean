import RioGram.Core.Cuts
import RioGram.Tls.DpiBypass

/-!
# The fragments of a ClientHello

`fragment_client_hello` draws a number of parts, then one position for each cut, and sorts the positions.
What `Random::fast` gives is an input here (`Outcomes`).

**Ranges.**  The range of each position leaves room for the parts before and behind it (`room_for_parts`), so
the subtraction does not underflow.

**Positions.**  Each is drawn for itself, and the ranges overlap: nothing keeps two of them 32 bytes apart.
`fragmented_iff` says that this, the conversions to `int` and a `max_parts` of zero are all that can go wrong.
-/

namespace RioGram

open Wire Cuts

namespace DpiBypass

/-- What `Random::fast` gives, call by call: a number within the bounds, which are inclusive. -/
structure Outcomes where
  fast : ℕ → ℤ → ℤ → ℤ
  bounds : ∀ call low high, low ≤ high → low ≤ fast call low high ∧ fast call low high ≤ high

/-- A call of `Random::fast`; `none` is its failed `DCHECK`. -/
def Outcomes.draw (outcomes : Outcomes) (call : ℕ) (low high : ℤ) : Option ℤ :=
  if low ≤ high then some (outcomes.fast call low high) else none

/-- `static_cast<int>` of a `size_t`. -/
def toInt (n : ℕ) : ℤ := (n : ℤ).bmod (2 ^ 32)

/-- `static_cast<size_t>` of an `int`. -/
def toSize (i : ℤ) : ℕ := (i % 2 ^ 64).toNat

section Parameters

variable (cfg : Config) (outcomes : Outcomes) (packet : Bytes) (minParts maxParts : ℕ)

/-- `parts_count`, from what was drawn for it. -/
def partsCount (size : ℕ) (drawn : ℤ) : ℕ := min (toSize drawn) (size / 32)

/-- The least position for cut `i`. -/
def minPos (i : ℕ) : ℕ := i * 32

/-- The greatest position for cut `i` of a packet that is cut into `parts`. -/
def maxPos (size parts i : ℕ) : ℕ := size - (parts - i) * 32

/-- The bounds for cut `i` are still in order when they have become `int`. -/
def BoundsInOrder (size parts i : ℕ) : Prop := toInt (minPos i) ≤ toInt (maxPos size parts i)

instance (size parts i : ℕ) : Decidable (BoundsInOrder size parts i) := inferInstanceAs (Decidable (_ ≤ _))

/-- The loop over the cuts: `none` if a call of `Random::fast` fails, and `some none` if a range has no
room. -/
def drawCuts (size parts : ℕ) : List ℕ → Option (Option (List ℕ))
  | [] => some (some [])
  | i :: is =>
      if maxPos size parts i ≤ minPos i then some none
      else
        (outcomes.draw i (toInt (minPos i)) (toInt (maxPos size parts i))).bind fun drawn =>
          (drawCuts size parts is).map fun cuts => cuts.map (toSize drawn :: ·)

/-- The fragments between the positions, in order; without positions it is the whole packet. -/
def cutPacket : Option (List ℕ) → Option (List Bytes)
  | none => some [packet]
  | some cuts => cutAt packet 0 (cuts.insertionSort (· ≤ ·))

/-- `fragment_client_hello`; `none` is a failed check. -/
def fragmentClientHello : Option (List Bytes) :=
  if packet = [] then some []
  else if cfg.stableProxyMode ∨ minParts ≤ 1 then some [packet]
  else if packet.length < 64 then some [packet]
  else
    (outcomes.draw 0 (toInt minParts) (toInt maxParts)).bind fun drawn =>
      let parts := partsCount packet.length drawn
      if parts ≤ 1 then some [packet]
      else
        (drawCuts outcomes packet.length parts (List.range' 1 (parts - 1))).bind (cutPacket packet)

/-! ## What is wanted, and when it holds -/

/-- The fragments are the packet, they are not too many, and none of several is short. -/
def IsFragmentation (fragments : List Bytes) : Prop :=
  fragments.flatten = packet ∧ fragments.length ≤ maxParts ∧
    (1 < fragments.length → ∀ fragment ∈ fragments, 32 ≤ fragment.length)

/-- The packet is fragmented as it should be, and no range of positions is computed with an underflow. -/
def Fragmented : Prop :=
  (∃ fragments, fragmentClientHello cfg outcomes packet minParts maxParts = some fragments ∧
      IsFragmentation packet maxParts fragments) ∧
    ∀ drawn i, i < partsCount packet.length drawn → (partsCount packet.length drawn - i) * 32 ≤ packet.length

/-- The number of parts that is drawn. -/
def drawnParts : ℕ := partsCount packet.length (outcomes.fast 0 (toInt minParts) (toInt maxParts))

/-- The position that is drawn for cut `i`. -/
def drawnCut (size parts i : ℕ) : ℕ := toSize (outcomes.fast i (toInt (minPos i)) (toInt (maxPos size parts i)))

/-- The positions that are drawn. -/
def drawnCuts (size parts : ℕ) : List ℕ := (List.range' 1 (parts - 1)).map (drawnCut outcomes size parts)

/-- One fragment is all there is: one part is wanted or drawn, or there are no bytes to spare. -/
def SentWhole : Prop :=
  minParts ≤ 1 ∨ packet.length < 64 ∨
    toInt minParts ≤ toInt maxParts ∧ (drawnParts outcomes packet minParts maxParts ≤ 1 ∨
      packet.length = drawnParts outcomes packet minParts maxParts * 32)

/-- The bounds of all draws are in order, and the positions are 32 bytes apart from one another and from the
ends of the packet. -/
def DrawnApart : Prop :=
  let parts := drawnParts outcomes packet minParts maxParts
  toInt minParts ≤ toInt maxParts ∧ 2 ≤ parts ∧ parts ≤ maxParts ∧
    (∀ i ∈ List.range' 1 (parts - 1), BoundsInOrder packet.length parts i) ∧
    (∀ cut ∈ drawnCuts outcomes packet.length parts, 32 ≤ cut ∧ cut + 32 ≤ packet.length) ∧
    (drawnCuts outcomes packet.length parts).Pairwise (Apart 32)

end Parameters

/-! ## The ranges -/

lemma partsCount_mul_le (size : ℕ) (drawn : ℤ) : partsCount size drawn * 32 ≤ size := by
  have hle : partsCount size drawn ≤ size / 32 := Nat.min_le_right _ _
  have hmul := Nat.div_mul_le_self size 32
  omega

/-- There is room for the parts behind a cut, and the range is empty exactly if no byte is to spare. -/
lemma room_for_parts {size parts i : ℕ} (hparts : parts * 32 ≤ size) (hi : i < parts) :
    (parts - i) * 32 ≤ size ∧ (maxPos size parts i ≤ minPos i ↔ size = parts * 32) := by
  unfold maxPos minPos
  omega

lemma drawnParts_mul_le (outcomes : Outcomes) (packet : Bytes) (minParts maxParts : ℕ) :
    drawnParts outcomes packet minParts maxParts * 32 ≤ packet.length :=
  partsCount_mul_le _ _

/-- With bytes to spare all positions are drawn, if the bounds are in order. -/
lemma drawCuts_eq (outcomes : Outcomes) {size parts : ℕ} {is : List ℕ}
    (hroom : ∀ i ∈ is, ¬ maxPos size parts i ≤ minPos i) (hbounds : ∀ i ∈ is, BoundsInOrder size parts i) :
    drawCuts outcomes size parts is = some (some (is.map (drawnCut outcomes size parts))) := by
  induction is with
  | nil => rfl
  | cons i is ih =>
      rw [List.forall_mem_cons] at hroom hbounds
      have horder : toInt (minPos i) ≤ toInt (maxPos size parts i) := hbounds.1
      rw [drawCuts, if_neg hroom.1, ih hroom.2 hbounds.2, Outcomes.draw, if_pos horder]
      rfl

/-- Where they are not, a check fails. -/
lemma drawCuts_eq_none (outcomes : Outcomes) {size parts : ℕ} {is : List ℕ}
    (hroom : ∀ i ∈ is, ¬ maxPos size parts i ≤ minPos i) {i : ℕ} (hi : i ∈ is)
    (h : ¬ BoundsInOrder size parts i) : drawCuts outcomes size parts is = none := by
  induction is with
  | nil => cases hi
  | cons j is ih =>
      rw [List.forall_mem_cons] at hroom
      rw [drawCuts, if_neg hroom.1, Outcomes.draw]
      rcases List.mem_cons.mp hi with rfl | hi
      · have horder : ¬ toInt (minPos i) ≤ toInt (maxPos size parts i) := h
        rw [if_neg horder, Option.bind_none]
      · rw [ih hroom.2 hi]
        split_ifs <;> rfl

/-! ## The fragments -/

section Fragments

variable {cfg : Config} {outcomes : Outcomes} {packet : Bytes} {minParts maxParts : ℕ}

/-- What is cut is the packet, whatever was drawn. -/
lemma flatten_cutPacket {cuts : Option (List ℕ)} {fragments : List Bytes}
    (h : cutPacket packet cuts = some fragments) : fragments.flatten = packet := by
  cases cuts with
  | none =>
      cases h
      exact List.flatten_singleton
  | some cuts =>
      have hsorted : (0 :: cuts.insertionSort (· ≤ ·)).Pairwise (· ≤ ·) :=
        List.pairwise_cons.mpr ⟨fun _ _ => Nat.zero_le _, List.pairwise_insertionSort _ _⟩
      exact (cutAt_spec hsorted h).1

/-- **What `send_hello` appends to the output is the hello**, in the stable mode or not, whatever was
drawn. -/
theorem flatten_fragmentClientHello {fragments : List Bytes}
    (h : fragmentClientHello cfg outcomes packet minParts maxParts = some fragments) :
    fragments.flatten = packet := by
  rw [fragmentClientHello] at h
  split_ifs at h with hempty hflag hshort
  · cases h
    exact hempty.symm
  · cases h
    exact List.flatten_singleton
  · cases h
    exact List.flatten_singleton
  · obtain ⟨drawn, -, hparts⟩ := Option.bind_eq_some_iff.mp h
    change (if partsCount packet.length drawn ≤ 1 then _ else _) = _ at hparts
    split_ifs at hparts with hone
    · cases hparts
      exact List.flatten_singleton
    · obtain ⟨cuts, -, hcuts⟩ := Option.bind_eq_some_iff.mp hparts
      exact flatten_cutPacket hcuts

lemma isFragmentation_single : IsFragmentation packet maxParts [packet] ↔ 1 ≤ maxParts := by
  simp [IsFragmentation]

/-- Several parts are drawn: what is left is the loop over the cuts. -/
lemma fragmentClientHello_parts (hstable : cfg.stableProxyMode = false) (hmin : ¬ minParts ≤ 1)
    (hlong : ¬ packet.length < 64) (horder : toInt minParts ≤ toInt maxParts)
    (hparts : ¬ drawnParts outcomes packet minParts maxParts ≤ 1) :
    fragmentClientHello cfg outcomes packet minParts maxParts =
      (drawCuts outcomes packet.length (drawnParts outcomes packet minParts maxParts)
        (List.range' 1 (drawnParts outcomes packet minParts maxParts - 1))).bind (cutPacket packet) := by
  have hne : packet ≠ [] := by
    rintro rfl
    exact hlong (by decide)
  have hone : ¬ (cfg.stableProxyMode = true ∨ minParts ≤ 1) := by
    rw [hstable]
    exact not_or.mpr ⟨Bool.false_ne_true, hmin⟩
  rw [fragmentClientHello, if_neg hne, if_neg hone, if_neg hlong, Outcomes.draw, if_pos horder, Option.bind_some]
  exact if_neg hparts

/-- Where one fragment is enough there is one. -/
lemma fragmentClientHello_whole (hstable : cfg.stableProxyMode = false) (hne : packet ≠ [])
    (h : SentWhole outcomes packet minParts maxParts) :
    fragmentClientHello cfg outcomes packet minParts maxParts = some [packet] := by
  by_cases hmin : minParts ≤ 1
  · rw [fragmentClientHello, if_neg hne, if_pos (Or.inr hmin)]
  by_cases hshort : packet.length < 64
  · rw [fragmentClientHello, if_neg hne, if_pos hshort]
    exact ite_self _
  obtain ⟨horder, hparts⟩ := (h.resolve_left hmin).resolve_left hshort
  by_cases hone : drawnParts outcomes packet minParts maxParts ≤ 1
  · have hflag : ¬ (cfg.stableProxyMode = true ∨ minParts ≤ 1) := by
      rw [hstable]
      exact not_or.mpr ⟨Bool.false_ne_true, hmin⟩
    rw [fragmentClientHello, if_neg hne, if_neg hflag, if_neg hshort, Outcomes.draw, if_pos horder,
      Option.bind_some]
    exact if_pos hone
  · obtain ⟨n, hn⟩ : ∃ n, drawnParts outcomes packet minParts maxParts - 1 = n + 1 :=
      ⟨drawnParts outcomes packet minParts maxParts - 2, by omega⟩
    have hempty := (room_for_parts (drawnParts_mul_le outcomes packet minParts maxParts)
      (Nat.lt_of_not_le hone)).2.mpr (hparts.resolve_left hone)
    rw [fragmentClientHello_parts hstable hmin hshort horder hone, hn, List.range'_succ, drawCuts, if_pos hempty]
    rfl

/-- Otherwise it goes on to the cuts only with all bounds in order, and then cuts where it was drawn. -/
lemma fragmentClientHello_cut (hstable : cfg.stableProxyMode = false)
    (h : ¬ SentWhole outcomes packet minParts maxParts) {fragments : List Bytes} :
    fragmentClientHello cfg outcomes packet minParts maxParts = some fragments ↔
      toInt minParts ≤ toInt maxParts ∧
        (∀ i ∈ List.range' 1 (drawnParts outcomes packet minParts maxParts - 1),
          BoundsInOrder packet.length (drawnParts outcomes packet minParts maxParts) i) ∧
        cutAt packet 0 ((drawnCuts outcomes packet.length
          (drawnParts outcomes packet minParts maxParts)).insertionSort (· ≤ ·)) = some fragments := by
  simp only [SentWhole, not_or, not_and] at h
  obtain ⟨hmin, hlong, hparts⟩ := h
  by_cases horder : toInt minParts ≤ toInt maxParts
  · obtain ⟨hone, hsize⟩ := hparts horder
    have hroom : ∀ i ∈ List.range' 1 (drawnParts outcomes packet minParts maxParts - 1),
        ¬ maxPos packet.length (drawnParts outcomes packet minParts maxParts) i ≤ minPos i := by
      intro i hi hempty
      rw [List.mem_range'_1] at hi
      exact hsize ((room_for_parts (drawnParts_mul_le outcomes packet minParts maxParts) (by omega)).2.mp hempty)
    rw [fragmentClientHello_parts hstable hmin hlong horder hone]
    by_cases hbounds : ∀ i ∈ List.range' 1 (drawnParts outcomes packet minParts maxParts - 1),
        BoundsInOrder packet.length (drawnParts outcomes packet minParts maxParts) i
    · rw [drawCuts_eq outcomes hroom hbounds]
      exact ⟨fun hcut => ⟨horder, hbounds, hcut⟩, fun hcut => hcut.2.2⟩
    · have hnot := hbounds
      push Not at hnot
      obtain ⟨i, hi, hi'⟩ := hnot
      rw [drawCuts_eq_none outcomes hroom hi hi', Option.bind_none]
      exact iff_of_false (Option.some_ne_none _).symm fun hcut => hbounds hcut.2.1
  · have hne : packet ≠ [] := by
      rintro rfl
      exact hlong (by decide)
    have hflag : ¬ (cfg.stableProxyMode = true ∨ minParts ≤ 1) := by
      rw [hstable]
      exact not_or.mpr ⟨Bool.false_ne_true, hmin⟩
    rw [fragmentClientHello, if_neg hne, if_neg hflag, if_neg hlong, Outcomes.draw, if_neg horder,
      Option.bind_none]
    exact iff_of_false (Option.some_ne_none _).symm fun hcut => horder hcut.1

/-- The positions in order are spaced exactly if they were drawn apart. -/
lemma spaced_insertionSort {size : ℕ} {cuts : List ℕ} (hsize : 32 ≤ size) :
    Spaced 32 size 0 (cuts.insertionSort (· ≤ ·)) ↔
      (∀ cut ∈ cuts, 32 ≤ cut ∧ cut + 32 ≤ size) ∧ cuts.Pairwise (Apart 32) := by
  have hperm := cuts.perm_insertionSort (· ≤ ·)
  rw [spaced_iff (cuts.pairwise_insertionSort (· ≤ ·)), hperm.pairwise_iff Apart.symm]
  simp only [hperm.mem_iff, zero_add]
  exact ⟨fun h => h.2, fun h => ⟨hsize, h⟩⟩

/-- **What can go wrong.**  The packet is fragmented as it should be exactly if it is empty, or sent whole to
someone who takes a fragment, or cut where the positions have been drawn apart. -/
theorem fragmented_iff (cfg : Config) (outcomes : Outcomes) (packet : Bytes) (minParts maxParts : ℕ) :
    Fragmented { cfg with stableProxyMode := false } outcomes packet minParts maxParts ↔
      packet = [] ∨ (SentWhole outcomes packet minParts maxParts ∧ 1 ≤ maxParts) ∨
        DrawnApart outcomes packet minParts maxParts := by
  have hroom : ∀ drawn i, i < partsCount packet.length drawn →
      (partsCount packet.length drawn - i) * 32 ≤ packet.length :=
    fun drawn i hi => (room_for_parts (partsCount_mul_le packet.length drawn) hi).1
  rw [Fragmented, and_iff_left hroom]
  by_cases hempty : packet = []
  · refine iff_of_true ⟨[], ?_, ?_⟩ (Or.inl hempty)
    · rw [fragmentClientHello, if_pos hempty]
    · rw [hempty]
      exact ⟨rfl, Nat.zero_le _, fun h => absurd h (by decide)⟩
  by_cases hwhole : SentWhole outcomes packet minParts maxParts
  · rw [fragmentClientHello_whole rfl hempty hwhole]
    constructor
    · rintro ⟨fragments, hfragments, hgood⟩
      rw [← Option.some.inj hfragments] at hgood
      exact Or.inr (Or.inl ⟨hwhole, isFragmentation_single.mp hgood⟩)
    · rintro (h | ⟨-, hmax⟩ | ⟨-, htwo, hle, -⟩)
      · exact absurd h hempty
      · exact ⟨_, rfl, isFragmentation_single.mpr hmax⟩
      · exact ⟨_, rfl, isFragmentation_single.mpr (by omega)⟩
  · have hlong : ¬ packet.length < 64 := fun h => hwhole (Or.inr (Or.inl h))
    have hlength : (drawnCuts outcomes packet.length (drawnParts outcomes packet minParts maxParts)).length =
        drawnParts outcomes packet minParts maxParts - 1 := by
      rw [drawnCuts, List.length_map, List.length_range']
    have hsorted : (0 :: (drawnCuts outcomes packet.length
        (drawnParts outcomes packet minParts maxParts)).insertionSort (· ≤ ·)).Pairwise (· ≤ ·) :=
      List.pairwise_cons.mpr ⟨fun _ _ => Nat.zero_le _, List.pairwise_insertionSort _ _⟩
    constructor
    · rintro ⟨fragments, hfragments, hflatten, hmax, hbig⟩
      obtain ⟨horder, hbounds, hcut⟩ := (fragmentClientHello_cut rfl hwhole).mp hfragments
      obtain ⟨-, hcount, -, hspaced⟩ := cutAt_spec hsorted hcut
      rw [List.length_insertionSort, hlength] at hcount
      have htwo : 2 ≤ drawnParts outcomes packet minParts maxParts := by
        by_contra hone
        exact hwhole (Or.inr (Or.inr ⟨horder, Or.inl (by omega)⟩))
      have happart := (spaced_insertionSort (by omega)).mp ((hspaced 32).mp (hbig (by omega)))
      exact Or.inr (Or.inr ⟨horder, htwo, by omega, hbounds, happart⟩)
    · rintro (h | ⟨h, -⟩ | ⟨horder, htwo, hmax, hbounds, happart⟩)
      · exact absurd h hempty
      · exact absurd h hwhole
      · have hspaced := (spaced_insertionSort (by omega)).mpr happart
        obtain ⟨fragments, hcut⟩ := exists_cutAt hspaced.le
        obtain ⟨hflatten, hcount, -, hbig⟩ := cutAt_spec hsorted hcut
        rw [List.length_insertionSort, hlength] at hcount
        refine ⟨fragments, (fragmentClientHello_cut rfl hwhole).mpr ⟨horder, hbounds, hcut⟩, hflatten, ?_, ?_⟩
        · omega
        · exact fun _ => (hbig 32).mpr hspaced

end Fragments

/-- Three parts are drawn, and both cuts at 64. -/
def sameCut : Outcomes where
  fast call low high := if call = 2 then low else high
  bounds call low high h := by
    split_ifs
    · exact ⟨le_rfl, h⟩
    · exact ⟨h, le_rfl⟩

/-- 128 bytes that are cut twice at the same place have an empty fragment between the others. -/
theorem same_cut_not_fragmented :
    fragmentClientHello { stableProxyMode := false } sameCut (List.replicate 128 0) 2 3 =
        some [List.replicate 64 0, [], List.replicate 64 0] ∧
      ¬ Fragmented { stableProxyMode := false } sameCut (List.replicate 128 0) 2 3 := by
  have hrun : fragmentClientHello { stableProxyMode := false } sameCut (List.replicate 128 0) 2 3 =
      some [List.replicate 64 0, [], List.replicate 64 0] := by decide +kernel
  refine ⟨hrun, ?_⟩
  rintro ⟨⟨fragments, hfragments, -, -, hbig⟩, -⟩
  rw [hrun] at hfragments
  rw [← Option.some.inj hfragments] at hbig
  have hseveral : 1 < [List.replicate 64 (0 : UInt8), [], List.replicate 64 0].length := by simp
  have hempty : 32 ≤ ([] : Bytes).length := hbig hseveral [] (List.mem_cons_of_mem _ List.mem_cons_self)
  exact absurd hempty (by decide)

/-! ## Sizes that an `int` holds -/

lemma toInt_of_lt {n : ℕ} (h : n < 2 ^ 31) : toInt n = n := by
  have hn : (n : ℤ) < 2147483648 := by omega
  have h32 : ((2 ^ 32 : ℕ) : ℤ) = 4294967296 := by simp
  unfold toInt
  rw [Int.bmod_def, h32, Int.emod_eq_of_lt (by omega) (by omega), if_pos (by omega)]

/-- With sizes below 2³¹ the conversions change nothing, and only the positions matter. -/
theorem drawnApart_iff_of_lt (outcomes : Outcomes) {packet : Bytes} {minParts maxParts : ℕ}
    (hparts : minParts ≤ maxParts) (hmax : maxParts < 2 ^ 31) (hsize : packet.length < 2 ^ 31) :
    DrawnApart outcomes packet minParts maxParts ↔
      2 ≤ drawnParts outcomes packet minParts maxParts ∧
        (∀ cut ∈ drawnCuts outcomes packet.length (drawnParts outcomes packet minParts maxParts),
          32 ≤ cut ∧ cut + 32 ≤ packet.length) ∧
        (drawnCuts outcomes packet.length (drawnParts outcomes packet minParts maxParts)).Pairwise (Apart 32) := by
  have horder : toInt minParts ≤ toInt maxParts := by
    rw [toInt_of_lt hmax, toInt_of_lt (by omega)]
    exact_mod_cast hparts
  have hle : drawnParts outcomes packet minParts maxParts ≤ maxParts := by
    have hbounds := outcomes.bounds 0 _ _ horder
    rw [toInt_of_lt hmax, toInt_of_lt (show minParts < 2 ^ 31 by omega)] at hbounds
    refine (Nat.min_le_left _ _).trans ?_
    rw [toInt_of_lt hmax, toInt_of_lt (show minParts < 2 ^ 31 by omega), toSize]
    omega
  have hbounds : ∀ i ∈ List.range' 1 (drawnParts outcomes packet minParts maxParts - 1),
      BoundsInOrder packet.length (drawnParts outcomes packet minParts maxParts) i := by
    intro i hi
    rw [List.mem_range'_1] at hi
    have hmul := drawnParts_mul_le outcomes packet minParts maxParts
    rw [BoundsInOrder, minPos, maxPos, toInt_of_lt (by omega), toInt_of_lt (by omega)]
    omega
  constructor
  · rintro ⟨-, htwo, -, -, happart⟩
    exact ⟨htwo, happart⟩
  · rintro ⟨htwo, happart⟩
    exact ⟨horder, htwo, hle, hbounds, happart⟩

end DpiBypass

end RioGram
