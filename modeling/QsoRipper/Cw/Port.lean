/-
QsoRipper/Cw/Port.lean

`WinkeyerPort`: what it writes to the serial port.  Text and host commands share one stream
of bytes, and the device takes every byte below the space for a command.

The worker and the port both ask whether the text is ASCII, and neither asks for more, so
what is written is printable exactly if the text has no control character.
-/
import QsoRipper.Cw.Template
import QsoRipper.Lib.Utf8

namespace QsoRipper.Cw

/-! ### Bytes -/

/-- The calls of the port that write. -/
inductive PortCall where
  | initialize_
  | setSpeed (speedWpm : ℕ)
  | sendText (text : String)
  | clearBuffer
  | isBusy
  | close

/-- One character of `WinkeyerPort::send_text`. -/
def encodeText (bytes : List UInt8) (ch : Char) : Except CwError (List UInt8) :=
  if 128 ≤ ch.toNat then
    .error (.io ("non-ASCII CW character '" ++ String.singleton ch ++ "'"))
  else .ok (bytes ++ String.utf8EncodeChar (Text.asciiUpperChar ch))

/-- What a call hands to `write_all`; the host is opened before the buffer is cleared. -/
def PortCall.bytes : PortCall → Except CwError (List UInt8)
  | initialize_ => .ok [0x00, 0x02, 0x0A]
  | setSpeed speedWpm => do
      validateSpeed speedWpm
      return [0x02, UInt8.ofNat speedWpm]
  | sendText text => text.toList.foldlM encodeText []
  | clearBuffer => .ok [0x0A]
  | isBusy => .ok [0x15]
  | close => .ok [0x00, 0x03]

/-- Is a byte a printable character? -/
def IsPrintable (byte : UInt8) : Prop := 0x20 ≤ byte.toNat ∧ byte.toNat ≤ 0x7E

instance (byte : UInt8) : Decidable (IsPrintable byte) := inferInstanceAs (Decidable (_ ∧ _))

/-- A control character. -/
def IsControl (c : Char) : Prop := c.toNat < 0x20 ∨ c.toNat = 0x7F

instance (c : Char) : Decidable (IsControl c) := inferInstanceAs (Decidable (_ ∨ _))

/-! ### Text -/

theorem isPrintable_asciiUpper_iff {c : Char} (hascii : c.toNat < 128) :
    IsPrintable (UInt8.ofNat (Text.asciiUpperChar c).toNat) ↔ ¬ IsControl c := by
  rw [IsPrintable, IsControl, Text.asciiUpperChar]
  split_ifs with hlower
  · have hvalid : (c.toNat - 32).isValidChar := by
      rw [Nat.isValidChar]
      omega
    rw [Text.toNat_ofNat hvalid, UInt8.toNat_ofNat']
    omega
  · rw [UInt8.toNat_ofNat']
    omega

theorem asciiUpperChar_lt {c : Char} (hascii : c.toNat < 128) :
    (Text.asciiUpperChar c).toNat < 128 := by
  rw [Text.asciiUpperChar]
  split_ifs with hlower
  · have hvalid : (c.toNat - 32).isValidChar := by
      rw [Nat.isValidChar]
      omega
    rw [Text.toNat_ofNat hvalid]
    omega
  · exact hascii

/-- The port writes one byte for each character that the worker has let through. -/
theorem foldlM_encodeText {cs : List Char} (hascii : ∀ c ∈ cs, c.toNat < 128)
    (bytes : List UInt8) :
    cs.foldlM encodeText bytes
      = .ok (bytes ++ cs.map fun c => UInt8.ofNat (Text.asciiUpperChar c).toNat) := by
  induction cs generalizing bytes with
  | nil => simp [pure, Except.pure]
  | cons c cs ih =>
      obtain ⟨hc, hcs⟩ := List.forall_mem_cons.mp hascii
      have hone : String.utf8EncodeChar (Text.asciiUpperChar c)
          = [UInt8.ofNat (Text.asciiUpperChar c).toNat] := by
        have hone : ∀ d ∈ [Text.asciiUpperChar c], d.toNat < 128 := by
          simpa using asciiUpperChar_lt hc
        simpa using Utf8.encode_ascii hone
      have hstep : encodeText bytes c
          = .ok (bytes ++ [UInt8.ofNat (Text.asciiUpperChar c).toNat]) := by
        rw [encodeText, if_neg (by omega), hone]
      rw [List.foldlM_cons, hstep]
      show cs.foldlM encodeText _ = _
      rw [ih hcs]
      simp

/-- What the worker lets through is ASCII. -/
theorem ascii_of_validateText {text : String} (h : validateText text = .ok ()) :
    ∀ c ∈ text.toList, c.toNat < 128 := by
  intro c hc
  rw [validateText] at h
  split_ifs at h
  split at h
  · cases h
  · rename_i hfind
    simpa using List.find?_eq_none.mp hfind c hc

/-- **The port writes every text that the worker lets through, and what it writes is
printable exactly if the text has no control character.** -/
theorem sendText_printable_iff (text : String) (h : validateText text = .ok ()) :
    ∃ bytes, (PortCall.sendText text).bytes = .ok bytes
      ∧ ((∀ byte ∈ bytes, IsPrintable byte) ↔ ∀ c ∈ text.toList, ¬ IsControl c) := by
  have hascii := ascii_of_validateText h
  refine ⟨_, foldlM_encodeText hascii [], ?_⟩
  simp only [List.nil_append, List.mem_map, forall_exists_index, and_imp,
    forall_apply_eq_imp_iff₂]
  exact forall₂_congr fun c hc => isPrintable_asciiUpper_iff (hascii c hc)

theorem sendText_printable_iff_cq_test :
    validateText "CQ TEST" = .ok ()
      ∧ ∃ bytes, (PortCall.sendText "CQ TEST").bytes = .ok bytes
        ∧ ((∀ byte ∈ bytes, IsPrintable byte) ↔ ∀ c ∈ "CQ TEST".toList, ¬ IsControl c) :=
  ⟨by decide +kernel, sendText_printable_iff "CQ TEST" (by decide +kernel)⟩

/-- A line feed in a template is expanded to itself, let through, and written as the
command that clears the buffer. -/
theorem writes_clear_buffer :
    expandTemplate "CQ\nTEST" none none = .ok "CQ\nTEST"
      ∧ validateText "CQ\nTEST" = .ok ()
      ∧ (PortCall.sendText "CQ\nTEST").bytes
          = .ok [0x43, 0x51, 0x0A, 0x54, 0x45, 0x53, 0x54]
      ∧ PortCall.clearBuffer.bytes = .ok [0x0A]
      ∧ ¬ IsPrintable 0x0A := by
  decide +kernel

end QsoRipper.Cw
