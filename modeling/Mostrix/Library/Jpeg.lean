import Mathlib.Tactic.Common

/-!
# JPEG files up to their first frame header

The marker grammar in front of the first frame: a marker is a byte behind at least one `0xFF`, and
further `0xFF` bytes before it are fill bytes. Some markers stand alone, the others begin a segment
that holds its own length in two bytes. A frame header is such a segment, with the height and the
width of the image behind a byte for the precision.

A `File` carries the bounds that make it well formed, and `File.bytes` writes it. `File.spoiled` is
what a reader that takes every marker for one of a segment, without fill bytes, cannot read.
-/

namespace Jpeg

abbrev Bytes := List UInt8

/-! ## Numbers of two bytes -/

/-- The number of two bytes, the high one first. -/
def be16 (high low : UInt8) : Nat := high.toNat * 256 + low.toNat

/-- The two bytes of a number. -/
def bytes16 (n : Nat) : Bytes := [UInt8.ofNat (n / 256), UInt8.ofNat (n % 256)]

theorem be16_ofNat {n : Nat} (h : n < 65536) :
    be16 (UInt8.ofNat (n / 256)) (UInt8.ofNat (n % 256)) = n := by
  have hhigh : (UInt8.ofNat (n / 256)).toNat = n / 256 := by
    rw [UInt8.toNat_ofNat']
    omega
  have hlow : (UInt8.ofNat (n % 256)).toNat = n % 256 := by
    rw [UInt8.toNat_ofNat']
    omega
  rw [be16, hhigh, hlow]
  omega

/-! ## Markers -/

/-- `TEM` and `RST0` to `RST7`. -/
def IsStandalone (marker : UInt8) : Prop := marker = 0x01 ∨ 0xD0 ≤ marker ∧ marker ≤ 0xD7

/-- `SOF0` to `SOF15`: `DHT`, `JPG` and `DAC` are between them. -/
def IsFrame (marker : UInt8) : Prop :=
  0xC0 ≤ marker ∧ marker ≤ 0xCF ∧ marker ≠ 0xC4 ∧ marker ≠ 0xC8 ∧ marker ≠ 0xCC

/-- A marker with a length behind it: `SOI` and `EOI` have none, `0x00` and `0xFF` are none. -/
def HasLength (marker : UInt8) : Prop :=
  marker ≠ 0x00 ∧ marker ≠ 0xFF ∧ marker ≠ 0xD8 ∧ marker ≠ 0xD9 ∧ ¬ IsStandalone marker

instance : DecidablePred IsStandalone := fun _ => inferInstanceAs (Decidable (_ ∨ _))
instance : DecidablePred IsFrame := fun _ => inferInstanceAs (Decidable (_ ∧ _))
instance : DecidablePred HasLength := fun _ => inferInstanceAs (Decidable (_ ∧ _))

/-- A marker behind `fill` fill bytes. -/
def marked (fill : Nat) (marker : UInt8) : Bytes := List.replicate (fill + 1) 0xFF ++ [marker]

/-! ## What stands before the frame header -/

/-- A marker before the frame header, with its segment. -/
inductive Element where
  | standalone (fill : Nat) (marker : UInt8) (isStandalone : IsStandalone marker)
  | segment (fill : Nat) (marker : UInt8) (payload : Bytes) (hasLength : HasLength marker)
    (notFrame : ¬ IsFrame marker) (payload_lt : payload.length + 2 < 65536)
deriving DecidableEq

namespace Element

def bytes : Element → Bytes
  | standalone fill marker _ => marked fill marker
  | segment fill marker payload _ _ _ =>
    marked fill marker ++ bytes16 (payload.length + 2) ++ payload

/-- A segment without fill bytes. -/
def Plain : Element → Prop
  | standalone _ _ _ => False
  | segment fill _ _ _ _ _ => fill = 0

instance : DecidablePred Plain
  | standalone _ _ _ => inferInstanceAs (Decidable False)
  | segment fill _ _ _ _ _ => inferInstanceAs (Decidable (fill = 0))

/-- The bytes of a segment without fill bytes. -/
theorem bytes_of_plain {e : Element} (h : e.Plain) :
    ∃ marker high low payload, e.bytes = 0xFF :: marker :: high :: low :: payload ∧
      be16 high low = payload.length + 2 ∧ HasLength marker ∧ ¬ IsFrame marker := by
  cases e with
  | standalone fill marker isStandalone => cases h
  | segment fill marker payload hasLength notFrame payload_lt =>
    obtain rfl : fill = 0 := h
    exact ⟨marker, _, _, payload, rfl, be16_ofNat payload_lt, hasLength, notFrame⟩

/-- A fill byte or a standalone marker: the byte behind the first `0xFF` is not that of `EOI`. -/
theorem bytes_of_not_plain {e : Element} (h : ¬ e.Plain) :
    ∃ second rest, e.bytes = 0xFF :: second :: rest ∧ second ≠ 0xD9 := by
  cases e with
  | standalone fill marker isStandalone =>
    cases fill with
    | zero =>
      refine ⟨marker, [], rfl, ?_⟩
      rintro rfl
      exact absurd isStandalone (by decide)
    | succ fill => exact ⟨0xFF, _, rfl, by decide⟩
  | segment fill marker payload hasLength notFrame payload_lt =>
    cases fill with
    | zero => exact absurd rfl h
    | succ fill => exact ⟨0xFF, _, rfl, by decide⟩

theorem bytes_ne_nil (e : Element) : e.bytes ≠ [] := by
  cases e <;> simp [bytes, marked]

end Element

/-! ## Files -/

/-- A frame header. A height of zero stands for one that comes later in the file. -/
structure Frame where
  fill : Nat
  marker : UInt8
  precision : UInt8
  height : Nat
  width : Nat
  components : List (UInt8 × UInt8 × UInt8)
  isFrame : IsFrame marker
  height_lt : height < 65536
  width_pos : 0 < width
  width_lt : width < 65536
  components_pos : 0 < components.length
  components_lt : components.length < 256
deriving DecidableEq

/-- The length of a frame header, without its marker. -/
def Frame.length (frame : Frame) : Nat := 8 + 3 * frame.components.length

/-- The bytes of the components behind their number. -/
def Frame.parameters (frame : Frame) : Bytes :=
  UInt8.ofNat frame.components.length :: frame.components.flatMap fun c => [c.1, c.2.1, c.2.2]

def Frame.bytes (frame : Frame) : Bytes :=
  marked frame.fill frame.marker ++ bytes16 frame.length ++ frame.precision ::
    bytes16 frame.height ++ bytes16 frame.width ++ frame.parameters

theorem Frame.length_parameters (frame : Frame) :
    frame.parameters.length + 7 = frame.length := by
  have hflat : (frame.components.flatMap fun c => [c.1, c.2.1, c.2.2]).length =
      3 * frame.components.length := by
    induction frame.components with
    | nil => rfl
    | cons c components ih =>
      rw [List.flatMap_cons, List.length_append, ih, List.length_cons]
      simp only [List.length_cons, List.length_nil]
      omega
  rw [parameters, List.length_cons, hflat, length]
  omega

/-- The bytes of a frame header without fill bytes. -/
theorem Frame.bytes_of_fill_eq_zero {frame : Frame} (h : frame.fill = 0) :
    ∃ high low h₁ h₂ w₁ w₂, frame.bytes = 0xFF :: frame.marker :: high :: low ::
        frame.precision :: h₁ :: h₂ :: w₁ :: w₂ :: frame.parameters ∧
      be16 high low = frame.parameters.length + 7 ∧ be16 h₁ h₂ = frame.height ∧
      be16 w₁ w₂ = frame.width := by
  have hlength : frame.length < 65536 := by
    have hcomponents := frame.components_lt
    unfold Frame.length
    omega
  have hseg : be16 (UInt8.ofNat (frame.length / 256)) (UInt8.ofNat (frame.length % 256)) =
      frame.parameters.length + 7 := by rw [be16_ofNat hlength, frame.length_parameters]
  refine ⟨_, _, _, _, _, _, ?_, hseg, be16_ofNat frame.height_lt, be16_ofNat frame.width_lt⟩
  unfold Frame.bytes
  rw [h]
  rfl

theorem Frame.bytes_of_fill_ne_zero {frame : Frame} (h : frame.fill ≠ 0) :
    ∃ rest, frame.bytes = 0xFF :: 0xFF :: rest := by
  obtain ⟨fill, hfill⟩ := Nat.exists_eq_succ_of_ne_zero h
  unfold Frame.bytes
  rw [hfill]
  exact ⟨_, rfl⟩

theorem Frame.lt_length_bytes (frame : Frame) : 9 < frame.bytes.length := by
  have hparameters := frame.length_parameters
  have hlength : frame.length = 8 + 3 * frame.components.length := rfl
  simp only [Frame.bytes, marked, bytes16, List.length_append, List.length_replicate,
    List.length_cons, List.length_nil]
  omega

/-- A file that has a frame: what stands before its first frame header, the header, and the rest. -/
structure File where
  before : List Element
  frame : Frame
  rest : Bytes
deriving DecidableEq

/-- The bytes of a file from some element on. -/
def tailBytes (elements : List Element) (frame : Frame) (rest : Bytes) : Bytes :=
  elements.flatMap Element.bytes ++ (frame.bytes ++ rest)

def File.bytes (file : File) : Bytes :=
  0xFF :: 0xD8 :: tailBytes file.before file.frame file.rest

/-- The bytes from the first fill byte or standalone marker on. -/
def spoiledTail (frame : Frame) (rest : Bytes) : List Element → Option Bytes
  | [] => if frame.fill = 0 then none else some (tailBytes [] frame rest)
  | e :: elements =>
    if e.Plain then spoiledTail frame rest elements else some (tailBytes (e :: elements) frame rest)

/-- The bytes of a file from the first fill byte or standalone marker on, if there is one before the
frame header's marker. -/
def File.spoiled (file : File) : Option Bytes := spoiledTail file.frame file.rest file.before

section
variable {frame : Frame} {rest : Bytes}

theorem tailBytes_nil : tailBytes [] frame rest = frame.bytes ++ rest := rfl

theorem tailBytes_cons (e : Element) (elements : List Element) :
    tailBytes (e :: elements) frame rest = e.bytes ++ tailBytes elements frame rest := by
  unfold tailBytes
  rw [List.flatMap_cons, List.append_assoc]

variable (frame rest) in
theorem lt_length_tailBytes (elements : List Element) :
    elements.length + 9 < (tailBytes elements frame rest).length := by
  have hframe := frame.lt_length_bytes
  induction elements with
  | nil =>
    rw [tailBytes_nil, List.length_append, List.length_nil]
    omega
  | cons e elements ih =>
    have hbytes := List.length_pos_iff.2 e.bytes_ne_nil
    rw [tailBytes_cons, List.length_append, List.length_cons]
    omega

/-- What is spoiled begins with `0xFF` and a byte that is not that of `EOI`, and is long enough for
a frame header. -/
theorem eq_of_spoiledTail {elements : List Element} {tail : Bytes}
    (h : spoiledTail frame rest elements = some tail) :
    9 < tail.length ∧ ∃ second bytes, tail = 0xFF :: second :: bytes ∧ second ≠ 0xD9 := by
  induction elements with
  | nil =>
    have hlen := lt_length_tailBytes frame rest []
    rw [spoiledTail] at h
    split at h
    · cases h
    · rename_i hfill
      cases h
      obtain ⟨bytes, hbytes⟩ := Frame.bytes_of_fill_ne_zero hfill
      refine ⟨by omega, 0xFF, bytes ++ rest, ?_, by decide⟩
      rw [tailBytes_nil, hbytes]
      rfl
  | cons e elements ih =>
    have hlen := lt_length_tailBytes frame rest (e :: elements)
    rw [spoiledTail] at h
    split at h
    · exact ih h
    · rename_i hplain
      cases h
      obtain ⟨second, bytes, hbytes, hsecond⟩ := Element.bytes_of_not_plain hplain
      refine ⟨by omega, second, bytes ++ tailBytes elements frame rest, ?_, hsecond⟩
      rw [tailBytes_cons, hbytes]
      rfl

theorem fill_of_spoiledTail {elements : List Element} (h : spoiledTail frame rest elements = none) :
    frame.fill = 0 := by
  induction elements with
  | nil =>
    rw [spoiledTail] at h
    split at h
    · assumption
    · cases h
  | cons e elements ih =>
    rw [spoiledTail] at h
    split at h
    · exact ih h
    · cases h

end

end Jpeg
