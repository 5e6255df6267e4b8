import Mostrix.Library.Jpeg

/-!
# The size of an image

`read_image_dimensions` of `util/file_validation.rs`: the size of a PNG from its first chunk, or of
a JPEG from a scan for the first frame header.

The scan indexes untrusted bytes with lengths that are untrusted too. It stays in bounds and ends
for all of them (`readImageDimensions_total`). It reads every marker as that of a segment: behind
segments without fill bytes it finds the frame (`jpegScan_frame`), and where a fill byte or a
standalone marker comes first, it takes two bytes that are none for a length.
-/

namespace Mostrix.Chat

open Jpeg

/-- How a run of the code fails: `outOfBounds` is a panic. -/
inductive ScanFault where
  | outOfBounds
  | outOfFuel
deriving DecidableEq

/-- What a turn of the scan's loop comes to. -/
inductive ScanTurn where
  | next (i : Nat)
  | stop
  | found (width height : Nat)
deriving DecidableEq

/-- The frame markers of the scan. -/
def sofMarkers : List UInt8 := [0xC0, 0xC1, 0xC2, 0xC3, 0xC5, 0xC6, 0xC7, 0xC9, 0xCA, 0xCB]

/-- The width and the height in a frame header at `i`. -/
def frameSize (data : Bytes) (i : Nat) : Option (Nat × Nat) := do
  let height := be16 (← data[i + 5]?) (← data[i + 6]?)
  let width := be16 (← data[i + 7]?) (← data[i + 8]?)
  pure (width, height)

/-- A turn of the scan's loop; `none` is an index out of bounds. -/
def jpegTurn (data : Bytes) (i : Nat) : Option ScanTurn := do
  let byte ← data[i]?
  if byte ≠ 0xFF then pure (.next (i + 1))
  else do
    let marker ← data[i + 1]?
    if marker = 0xD9 then pure .stop
    else if i + 3 ≥ data.length then pure .stop
    else do
      let segLen := be16 (← data[i + 2]?) (← data[i + 3]?)
      if segLen < 2 ∨ i + 2 + segLen > data.length then pure .stop
      else if marker ∈ sofMarkers ∧ segLen ≥ 7 then do
        let (width, height) ← frameSize data i
        if width > 0 ∧ height > 0 then pure (.found width height) else pure (.next (i + 2 + segLen))
      else pure (.next (i + 2 + segLen))

/-- The scan's loop. -/
def jpegScan (data : Bytes) : Nat → Nat → Except ScanFault (Option (Nat × Nat))
  | 0, _ => .error .outOfFuel
  | fuel + 1, i =>
    if i + 9 < data.length then
      match jpegTurn data i with
      | none => .error .outOfBounds
      | some (.next j) => jpegScan data fuel j
      | some .stop => .ok none
      | some (.found width height) => .ok (some (width, height))
    else .ok none

def pngSignature : Bytes := [0x89, 0x50, 0x4E, 0x47, 0x0D, 0x0A, 0x1A, 0x0A]

/-- `u32::from_be_bytes` at `i`. -/
def be32 (data : Bytes) (i : Nat) : Option Nat := do
  let high := be16 (← data[i]?) (← data[i + 1]?)
  let low := be16 (← data[i + 2]?) (← data[i + 3]?)
  pure (high * 65536 + low)

/-- The size in the first chunk of a PNG; `none` is an index out of bounds. -/
def pngSize (data : Bytes) : Option (Option (Nat × Nat)) :=
  if pngSignature.isPrefixOf data ∧ data.length ≥ 24 then do
    let width ← be32 data 16
    let height ← be32 data 20
    pure (if width > 0 ∧ height > 0 then some (width, height) else none)
  else pure none

/-- `read_image_dimensions`. -/
def readImageDimensions (data : Bytes) : Except ScanFault (Option (Nat × Nat)) :=
  match pngSize data with
  | none => .error .outOfBounds
  | some (some size) => .ok (some size)
  | some none =>
    if data.length ≥ 4 ∧ data[0]? = some 0xFF ∧ data[1]? = some 0xD8 then
      jpegScan data data.length 2
    else .ok none

/-! ## Bounds, and the end of the scan -/

section
variable {data : Bytes} {i : Nat}

/-- A turn that the loop takes stays in bounds and moves on. -/
theorem jpegTurn_inBounds (h : i + 9 < data.length) :
    ∃ turn, jpegTurn data i = some turn ∧ ∀ j, turn = .next j → i < j := by
  have hget : ∀ k, k ≤ 9 → ∃ b, data[i + k]? = some b := fun k hk =>
    ⟨data[i + k], List.getElem?_eq_getElem (by omega)⟩
  obtain ⟨b₀, h₀⟩ := hget 0 (by omega)
  obtain ⟨b₁, h₁⟩ := hget 1 (by omega)
  obtain ⟨b₂, h₂⟩ := hget 2 (by omega)
  obtain ⟨b₃, h₃⟩ := hget 3 (by omega)
  obtain ⟨b₅, h₅⟩ := hget 5 (by omega)
  obtain ⟨b₆, h₆⟩ := hget 6 (by omega)
  obtain ⟨b₇, h₇⟩ := hget 7 (by omega)
  obtain ⟨b₈, h₈⟩ := hget 8 (by omega)
  have hsize : frameSize data i = some (be16 b₇ b₈, be16 b₅ b₆) := by
    unfold frameSize
    rw [h₅, h₆, h₇, h₈]
    rfl
  rw [Nat.add_zero] at h₀
  unfold jpegTurn
  rw [h₀, h₁, h₂, h₃, hsize]
  simp only [Option.bind_eq_bind, Option.bind_some, Option.pure_def]
  split_ifs
  all_goals
    refine ⟨_, rfl, fun j hj => ?_⟩
    cases hj
    try omega

/-- The scan ends, and in bounds. -/
theorem jpegScan_total (fuel : Nat) (hfuel : 0 < fuel) (h : data.length < i + fuel) :
    ∃ r, jpegScan data fuel i = .ok r := by
  induction fuel generalizing i with
  | zero => cases hfuel
  | succ fuel ih =>
    rw [jpegScan]
    by_cases hloop : i + 9 < data.length
    · rw [if_pos hloop]
      obtain ⟨turn, hturn, hmoves⟩ := jpegTurn_inBounds hloop
      rw [hturn]
      cases turn with
      | next j =>
        have hj : i < j := hmoves j rfl
        exact ih (by omega) (by omega)
      | stop => exact ⟨none, rfl⟩
      | found width height => exact ⟨some (width, height), rfl⟩
    · rw [if_neg hloop]
      exact ⟨none, rfl⟩

variable (data) in
theorem be32_inBounds (i : Nat) (h : i + 3 < data.length) : ∃ n, be32 data i = some n := by
  unfold be32
  rw [List.getElem?_eq_getElem (by omega : i < data.length),
    List.getElem?_eq_getElem (by omega : i + 1 < data.length),
    List.getElem?_eq_getElem (by omega : i + 2 < data.length),
    List.getElem?_eq_getElem (by omega : i + 3 < data.length)]
  exact ⟨_, rfl⟩

/-- The code answers for all bytes. -/
theorem readImageDimensions_total (data : Bytes) : ∃ r, readImageDimensions data = .ok r := by
  have hpng : ∃ size, pngSize data = some size := by
    unfold pngSize
    split
    · rename_i hpng
      obtain ⟨width, hwidth⟩ := be32_inBounds data 16 (by omega)
      obtain ⟨height, hheight⟩ := be32_inBounds data 20 (by omega)
      rw [hwidth, hheight]
      exact ⟨_, rfl⟩
    · exact ⟨none, rfl⟩
  obtain ⟨size, hsize⟩ := hpng
  unfold readImageDimensions
  rw [hsize]
  cases size with
  | some size => exact ⟨some size, rfl⟩
  | none =>
    dsimp only
    split
    · exact jpegScan_total _ (by omega) (by omega)
    · exact ⟨none, rfl⟩

/-! ## A turn at a marker -/

/-- What is behind the cursor. -/
theorem getElem?_of_drop {t : Bytes} (h : data.drop i = t) (k : Nat) : data[i + k]? = t[k]? := by
  rw [← h, List.getElem?_drop]

/-- A turn at a marker and a length. -/
theorem jpegTurn_of_drop {marker high low : UInt8} {t : Bytes}
    (h : data.drop i = 0xFF :: marker :: high :: low :: t) (heoi : marker ≠ 0xD9) :
    jpegTurn data i =
      if be16 high low < 2 ∨ t.length + 2 < be16 high low then some .stop
      else if marker ∈ sofMarkers ∧ be16 high low ≥ 7 then
        (frameSize data i).map fun size =>
          if size.1 > 0 ∧ size.2 > 0 then .found size.1 size.2
          else .next (i + 2 + be16 high low)
      else some (.next (i + 2 + be16 high low)) := by
  have hlen : data.length = i + (t.length + 4) := by
    have hdrop := congrArg List.length h
    simp only [List.length_drop, List.length_cons] at hdrop
    omega
  have h₀ : data[i]? = some 0xFF := getElem?_of_drop h 0
  have h₁ : data[i + 1]? = some marker := getElem?_of_drop h 1
  have h₂ : data[i + 2]? = some high := getElem?_of_drop h 2
  have h₃ : data[i + 3]? = some low := getElem?_of_drop h 3
  have hroom : ¬ i + 3 ≥ data.length := by omega
  have hover : i + 2 + be16 high low > data.length ↔ t.length + 2 < be16 high low := by omega
  unfold jpegTurn
  rw [h₀, h₁, h₂, h₃]
  simp only [Option.bind_eq_bind, Option.bind_some, Option.pure_def, ne_eq, not_true_eq_false,
    if_false, heoi, hroom, hover]
  split_ifs
  · rfl
  · cases frameSize data i with
    | none => rfl
    | some size =>
      dsimp only [Option.bind_some, Option.map_some]
      split <;> rfl
  · rfl

theorem isFrame_of_mem_sofMarkers {marker : UInt8} (h : marker ∈ sofMarkers) : IsFrame marker := by
  have hall : (sofMarkers.all fun marker => decide (IsFrame marker)) = true := by decide
  exact of_decide_eq_true (List.all_eq_true.1 hall marker h)

/-- A segment without fill bytes is skipped. -/
theorem jpegTurn_plain {e : Element} (hplain : e.Plain) {tail : Bytes}
    (h : data.drop i = e.bytes ++ tail) :
    jpegTurn data i = some (.next (i + e.bytes.length)) := by
  obtain ⟨marker, high, low, payload, hbytes, hlength, hmarker, hframe⟩ :=
    Element.bytes_of_plain hplain
  rw [hbytes] at h ⊢
  simp only [List.cons_append] at h
  have hnone : ¬ (be16 high low < 2 ∨ (payload ++ tail).length + 2 < be16 high low) := by
    rw [hlength, List.length_append]
    omega
  have hsof : ¬ (marker ∈ sofMarkers ∧ be16 high low ≥ 7) :=
    fun hsof => hframe (isFrame_of_mem_sofMarkers hsof.1)
  rw [jpegTurn_of_drop h hmarker.2.2.2.1, if_neg hnone, if_neg hsof, hlength]
  simp only [List.length_cons]
  congr 2
  omega

/-- The first frame header is read, where its marker is one of the scan's and it gives a height. -/
theorem jpegTurn_frame {frame : Frame} {rest : Bytes} (hfill : frame.fill = 0)
    (hmarker : frame.marker ∈ sofMarkers) (hheight : 0 < frame.height)
    (h : data.drop i = frame.bytes ++ rest) :
    jpegTurn data i = some (.found frame.width frame.height) := by
  obtain ⟨high, low, h₁, h₂, w₁, w₂, hbytes, hlength, hh, hw⟩ := Frame.bytes_of_fill_eq_zero hfill
  rw [hbytes] at h
  simp only [List.cons_append] at h
  have heoi : frame.marker ≠ 0xD9 := by
    intro heq
    rw [heq] at hmarker
    exact absurd hmarker (by decide)
  have hsize : frameSize data i = some (frame.width, frame.height) := by
    unfold frameSize
    rw [getElem?_of_drop h 5, getElem?_of_drop h 6, getElem?_of_drop h 7, getElem?_of_drop h 8,
      ← hh, ← hw]
    rfl
  have hnone : ¬ (be16 high low < 2 ∨
      (frame.precision :: h₁ :: h₂ :: w₁ :: w₂ :: (frame.parameters ++ rest)).length + 2 <
        be16 high low) := by
    rw [hlength]
    simp only [List.length_append, List.length_cons]
    omega
  have hsof : frame.marker ∈ sofMarkers ∧ be16 high low ≥ 7 := ⟨hmarker, by omega⟩
  rw [jpegTurn_of_drop h heoi, if_neg hnone, if_pos hsof, hsize]
  simp [frame.width_pos, hheight]

/-- A frame header with another marker is skipped like any segment. -/
theorem jpegTurn_otherFrame {frame : Frame} {rest : Bytes} (hfill : frame.fill = 0)
    (hmarker : frame.marker ∉ sofMarkers) (h : data.drop i = frame.bytes ++ rest) :
    jpegTurn data i = some (.next (i + frame.bytes.length)) := by
  obtain ⟨high, low, h₁, h₂, w₁, w₂, hbytes, hlength, -, -⟩ := Frame.bytes_of_fill_eq_zero hfill
  rw [hbytes] at h ⊢
  simp only [List.cons_append] at h
  have heoi : frame.marker ≠ 0xD9 := by
    intro heq
    have hframe := frame.isFrame
    rw [heq] at hframe
    exact absurd hframe (by decide)
  have hnone : ¬ (be16 high low < 2 ∨
      (frame.precision :: h₁ :: h₂ :: w₁ :: w₂ :: (frame.parameters ++ rest)).length + 2 <
        be16 high low) := by
    rw [hlength]
    simp only [List.length_append, List.length_cons]
    omega
  rw [jpegTurn_of_drop h heoi, if_neg hnone, if_neg fun hsof => hmarker hsof.1, hlength]
  simp only [List.length_cons]
  congr 2
  omega

/-- Two bytes that are read as a length: it leads out of the bytes. -/
def Overruns (tail : Bytes) : Prop := tail.length < 2 + be16 (tail.getD 2 0) (tail.getD 3 0)

instance : DecidablePred Overruns := fun _ => inferInstanceAs (Decidable (_ < _))

/-- Where a length leads out of the bytes, the scan gives up. -/
theorem jpegTurn_overruns {second : UInt8} {bytes : Bytes} (hlen : i + 9 < data.length)
    (h : data.drop i = 0xFF :: second :: bytes) (heoi : second ≠ 0xD9)
    (hover : Overruns (data.drop i)) : jpegTurn data i = some .stop := by
  have hdrop : (data.drop i).length = data.length - i := List.length_drop
  obtain ⟨high, low, t, rfl⟩ : ∃ high low t, bytes = high :: low :: t := by
    rw [h] at hdrop
    match bytes with
    | [] => simp at hdrop; omega
    | [_] => simp at hdrop; omega
    | high :: low :: t => exact ⟨high, low, t, rfl⟩
  rw [jpegTurn_of_drop h heoi, if_pos]
  unfold Overruns at hover
  rw [h] at hover
  simp only [List.length_cons, List.getD_cons_succ, List.getD_cons_zero] at hover
  omega

/-! ## The scan over a file -/

theorem jpegScan_next {fuel j : Nat} (hlen : i + 9 < data.length)
    (h : jpegTurn data i = some (.next j)) : jpegScan data (fuel + 1) i = jpegScan data fuel j := by
  rw [jpegScan, if_pos hlen, h]

/-- Where there is no marker any more, nothing is found. -/
theorem jpegScan_noMarker {fuel : Nat} (h : 0xFF ∉ data.drop i) (size : Nat × Nat) :
    jpegScan data fuel i ≠ .ok (some size) := by
  induction fuel generalizing i with
  | zero => nofun
  | succ fuel ih =>
    rw [jpegScan]
    by_cases hlen : i + 9 < data.length
    · have hi : i < data.length := by omega
      have hbyte : data[i]? = some data[i] := List.getElem?_eq_getElem hi
      have hne : data[i] ≠ 0xFF := by
        intro heq
        refine h ?_
        rw [List.drop_eq_getElem_cons hi, heq]
        exact List.mem_cons_self
      have hturn : jpegTurn data i = some (.next (i + 1)) := by
        unfold jpegTurn
        rw [hbyte, Option.bind_eq_bind, Option.bind_some, if_pos hne]
        rfl
      rw [if_pos hlen, hturn]
      refine ih fun hmem => h ?_
      rw [List.drop_eq_getElem_cons hi]
      exact List.mem_cons_of_mem _ hmem
    · rw [if_neg hlen]
      nofun

/-- The scan comes to what is spoiled, or else to the frame header. -/
theorem jpegScan_skip {frame : Frame} {rest : Bytes} (elements : List Element) {fuel : Nat}
    (hfuel : elements.length ≤ fuel) (h : data.drop i = tailBytes elements frame rest) :
    ∃ j left, jpegScan data (fuel + 1) i = jpegScan data (left + 1) j ∧
      data.drop j = (spoiledTail frame rest elements).getD (tailBytes [] frame rest) := by
  induction elements generalizing i fuel with
  | nil =>
    refine ⟨i, fuel, rfl, ?_⟩
    rw [h, spoiledTail]
    split <;> rfl
  | cons e elements ih =>
    rw [spoiledTail]
    by_cases hplain : e.Plain
    · rw [if_pos hplain]
      obtain ⟨fuel, rfl⟩ := Nat.exists_eq_add_one_of_ne_zero (Nat.ne_zero_of_lt hfuel)
      have hlen : i + 9 < data.length := by
        have hbytes := lt_length_tailBytes frame rest (e :: elements)
        rw [← h, List.length_drop] at hbytes
        omega
      rw [tailBytes_cons] at h
      rw [jpegScan_next hlen (jpegTurn_plain hplain h)]
      refine ih (Nat.le_of_succ_le_succ hfuel) ?_
      rw [← List.drop_drop, h, List.drop_left]
    · rw [if_neg hplain]
      exact ⟨i, fuel, rfl, h⟩

/-- A size that is found is positive. -/
theorem pos_of_found {width height : Nat}
    (hturn : jpegTurn data i = some (.found width height)) : 0 < width ∧ 0 < height := by
  unfold jpegTurn at hturn
  obtain ⟨byte, -, hturn⟩ := Option.bind_eq_some_iff.1 hturn
  split at hturn
  · cases hturn
  obtain ⟨marker, -, hturn⟩ := Option.bind_eq_some_iff.1 hturn
  split at hturn
  · cases hturn
  split at hturn
  · cases hturn
  obtain ⟨high, -, hturn⟩ := Option.bind_eq_some_iff.1 hturn
  obtain ⟨low, -, hturn⟩ := Option.bind_eq_some_iff.1 hturn
  dsimp only at hturn
  split at hturn
  · cases hturn
  split at hturn
  · obtain ⟨size, -, hturn⟩ := Option.bind_eq_some_iff.1 hturn
    split at hturn
    · rename_i hpos
      cases hturn
      exact hpos
    · cases hturn
  · cases hturn

theorem pos_of_jpegScan {fuel width height : Nat}
    (h : jpegScan data fuel i = .ok (some (width, height))) : 0 < width ∧ 0 < height := by
  induction fuel generalizing i with
  | zero => cases h
  | succ fuel ih =>
    rw [jpegScan] at h
    split at h
    · cases hturn : jpegTurn data i with
      | none =>
        rw [hturn] at h
        cases h
      | some turn =>
        rw [hturn] at h
        cases turn with
        | next j => exact ih h
        | stop => cases h
        | found width' height' =>
          cases h
          exact pos_of_found hturn
    · cases h

end

/-! ## Files -/

/-- What is asked of a file: the size of its first frame header is returned. -/
def ReturnsSize (file : File) : Prop :=
  readImageDimensions file.bytes = .ok (some (file.frame.width, file.frame.height))

instance : DecidablePred ReturnsSize := fun _ => inferInstanceAs (Decidable (_ = _))

theorem length_bytes (file : File) : file.before.length + 11 < file.bytes.length := by
  have htail := lt_length_tailBytes file.frame file.rest file.before
  rw [File.bytes, List.length_cons, List.length_cons]
  omega

/-- A file is scanned from behind its first marker. -/
theorem readImageDimensions_file (file : File) :
    readImageDimensions file.bytes = jpegScan file.bytes file.bytes.length 2 := by
  have hlen := length_bytes file
  have hpng : pngSize file.bytes = some none := by
    have hsig : pngSignature.isPrefixOf file.bytes = false := rfl
    unfold pngSize
    rw [if_neg (by simp [hsig])]
    rfl
  unfold readImageDimensions
  rw [hpng]
  exact if_pos ⟨by omega, rfl, rfl⟩

/-- The scan of a file comes to what is spoiled, or else to the frame header. -/
theorem readImageDimensions_skip (file : File) :
    ∃ i left, readImageDimensions file.bytes = jpegScan file.bytes (left + 1) i ∧
      file.bytes.drop i = file.spoiled.getD (file.frame.bytes ++ file.rest) := by
  have hlen := length_bytes file
  have hdrop : file.bytes.drop 2 = tailBytes file.before file.frame file.rest := rfl
  obtain ⟨fuel, hfuel⟩ := Nat.exists_eq_add_one_of_ne_zero (Nat.ne_zero_of_lt hlen)
  rw [readImageDimensions_file, hfuel]
  exact jpegScan_skip file.before (by omega) hdrop

theorem lt_length_of_drop {data rest : Bytes} {frame : Frame} {i : Nat}
    (h : data.drop i = frame.bytes ++ rest) : i + 9 < data.length := by
  have hframe := frame.lt_length_bytes
  have hbytes := congrArg List.length h
  rw [List.length_drop, List.length_append] at hbytes
  omega

/-- Behind segments without fill bytes, the first frame header is found. -/
theorem returnsSize_of_not_spoiled {file : File} (hspoiled : file.spoiled = none)
    (hmarker : file.frame.marker ∈ sofMarkers) (hheight : 0 < file.frame.height) :
    ReturnsSize file := by
  obtain ⟨i, left, hscan, hdrop⟩ := readImageDimensions_skip file
  rw [hspoiled, Option.getD_none] at hdrop
  have hlen := lt_length_of_drop hdrop
  have hfill : file.frame.fill = 0 := fill_of_spoiledTail hspoiled
  unfold ReturnsSize
  rw [hscan, jpegScan, if_pos hlen, jpegTurn_frame hfill hmarker hheight hdrop]

/-- A length that is none and leads out of the file: no size is found. -/
theorem not_returnsSize_of_overruns {file : File} {tail : Bytes}
    (hspoiled : file.spoiled = some tail) (hover : Overruns tail) : ¬ ReturnsSize file := by
  obtain ⟨i, left, hscan, hdrop⟩ := readImageDimensions_skip file
  obtain ⟨hlong, second, bytes, htail, hsecond⟩ := eq_of_spoiledTail hspoiled
  rw [hspoiled, Option.getD_some] at hdrop
  have hlen : i + 9 < file.bytes.length := by
    have hbytes := congrArg List.length hdrop
    rw [List.length_drop] at hbytes
    omega
  have hturn : jpegTurn file.bytes i = some .stop :=
    jpegTurn_overruns hlen (hdrop.trans htail) hsecond (by rwa [hdrop])
  unfold ReturnsSize
  rw [hscan, jpegScan, if_pos hlen, hturn]
  nofun

/-- The scan of a file whose height comes later never returns it. -/
theorem height_pos_of_returnsSize {file : File} (h : ReturnsSize file) : 0 < file.frame.height := by
  unfold ReturnsSize at h
  rw [readImageDimensions_file] at h
  exact (pos_of_jpegScan h).2

/-- A frame header with another marker: the size can only come from the rest of the file. -/
theorem marker_of_returnsSize {file : File} (h : ReturnsSize file)
    (hspoiled : file.spoiled = none) : file.frame.marker ∈ sofMarkers ∨ 0xFF ∈ file.rest := by
  by_contra hnot
  obtain ⟨hmarker, hrest⟩ := not_or.1 hnot
  obtain ⟨i, left, hscan, hdrop⟩ := readImageDimensions_skip file
  rw [hspoiled, Option.getD_none] at hdrop
  have hlen := lt_length_of_drop hdrop
  have hturn := jpegTurn_otherFrame (fill_of_spoiledTail hspoiled) hmarker hdrop
  have hbehind : file.bytes.drop (i + file.frame.bytes.length) = file.rest := by
    rw [← List.drop_drop, hdrop, List.drop_left]
  unfold ReturnsSize at h
  rw [hscan, jpegScan_next hlen hturn] at h
  exact jpegScan_noMarker (by rwa [hbehind]) _ h

/-- The law of the scan. It answers for all bytes. It finds the size where no fill byte and no
standalone marker come before the frame header, its marker is one of the scan's and its height is
given. Without the height it never does, nor where the first fill byte or standalone marker makes
it read a length that leads out of the file, nor with another marker when none comes behind. -/
theorem jpegSize_law (data : Bytes) (file : File) :
    (∃ r, readImageDimensions data = .ok r) ∧
      (file.spoiled = none ∧ file.frame.marker ∈ sofMarkers ∧ 0 < file.frame.height →
        ReturnsSize file) ∧
      (ReturnsSize file → 0 < file.frame.height ∧
        (∀ tail, file.spoiled = some tail → ¬ Overruns tail) ∧
        (file.spoiled = none → file.frame.marker ∈ sofMarkers ∨ 0xFF ∈ file.rest)) := by
  refine ⟨readImageDimensions_total data, ?_, fun h => ⟨?_, ?_, ?_⟩⟩
  · rintro ⟨hspoiled, hmarker, hheight⟩
    exact returnsSize_of_not_spoiled hspoiled hmarker hheight
  · exact height_pos_of_returnsSize h
  · intro tail hspoiled hover
    exact not_returnsSize_of_overruns hspoiled hover h
  · exact marker_of_returnsSize h

/-- A frame header of one component, behind so many fill bytes. -/
def tinyFrame (fill : Nat) : Frame where
  fill := fill
  marker := 0xC0
  precision := 8
  height := 1
  width := 1
  components := [(1, 0x11, 0)]
  isFrame := by decide
  height_lt := by decide
  width_pos := by decide
  width_lt := by decide
  components_pos := by decide
  components_lt := by decide

/-- A fill byte before the frame header: the marker's two bytes are read as a length. -/
theorem fill_byte_hides_frame : ¬ ReturnsSize ⟨[], tinyFrame 1, [0xFF, 0xD9]⟩ := by decide

example : ReturnsSize ⟨[], tinyFrame 0, [0xFF, 0xD9]⟩ := by decide

end Mostrix.Chat
