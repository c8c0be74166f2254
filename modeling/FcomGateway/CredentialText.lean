import Mathlib.Data.List.DropRight
import FcomGateway.Credentials
import FcomGateway.GwJob

/-! # The texts in the three files

The functions that save the credentials print them through buffers of 3010 and 50 bytes. Those
that read them take at most 2000 and 50 bytes of a file and put a newline behind a PEM text.
-/

namespace FcomGateway

open CJson

/-- What a `char` array of that size can hold. -/
structure ConfigText (size : Nat) where
  text : List UInt8
  fits : text.length < size
  nonzero : ∀ b ∈ text, b ≠ 0

structure CredentialTexts where
  clientId : ConfigText 33
  certificatePem : ConfigText 3000
  privatePem : ConfigText 3000

structure TextFiles where
  clientId : Option (List UInt8)
  certificatePem : Option (List UInt8)
  privatePem : Option (List UInt8)

structure ReadTexts where
  clientId : List UInt8
  certificatePem : List UInt8
  privatePem : List UInt8

/-! ## Saving -/

/-- A text that is printed to a local buffer and written to a file by `fputs`; `none` is a write
behind the buffer. -/
def putsThrough (size : Nat) (text : List UInt8) : Option (List UInt8) :=
  (sprintf size text).map cString

def flashClientPrivatePemSave (c : CredentialTexts) (files : TextFiles) : Option TextFiles :=
  (putsThrough 3010 c.privatePem.text).map fun text => { files with privatePem := some text }

def flashClientCertPemSave (c : CredentialTexts) (files : TextFiles) : Option TextFiles :=
  (putsThrough 3010 c.certificatePem.text).map fun text =>
    { files with certificatePem := some text }

def flashClientIdSave (c : CredentialTexts) (files : TextFiles) : Option TextFiles :=
  (putsThrough 50 c.clientId.text).map fun text => { files with clientId := some text }

/-! ## Reading -/

/-- Up to `count` bytes of a file that are printed with an ending to an array of `mqtt_config`. -/
def readInto (count : Nat) (ending : List UInt8) (size : Nat) (file : List UInt8) :
    Option (List UInt8) :=
  sprintf size (cString (file.take count) ++ ending)

/-- A file that does not exist leaves `mqtt_config` alone. -/
def flashClientIdRead (files : TextFiles) (config : ReadTexts) : Option (Bool × ReadTexts) :=
  files.clientId.elim (some (false, config)) fun file =>
    (readInto 50 [] 33 file).map fun text => (true, { config with clientId := text })

def flashClientPrivatePemRead (files : TextFiles) (config : ReadTexts) :
    Option (Bool × ReadTexts) :=
  files.privatePem.elim (some (false, config)) fun file =>
    (readInto 2000 [0x0A] 3000 file).map fun text => (true, { config with privatePem := text })

def flashClientCertPemRead (files : TextFiles) (config : ReadTexts) :
    Option (Bool × ReadTexts) :=
  files.certificatePem.elim (some (false, config)) fun file =>
    (readInto 2000 [0x0A] 3000 file).map fun text =>
      (true, { config with certificatePem := text })

/-- The reads of `app_main`, with the arrays as they are after a reset. -/
def readAll (files : TextFiles) : Option ReadTexts := do
  let (_, config) ← flashClientPrivatePemRead files ⟨[], [], []⟩
  let (_, config) ← flashClientCertPemRead files config
  let (_, config) ← flashClientIdRead files config
  return config

def saveAll (c : CredentialTexts) (files : TextFiles) : Option TextFiles := do
  let files ← flashClientIdSave c files
  let files ← flashClientCertPemSave c files
  flashClientPrivatePemSave c files

/-! ## The round trip -/

def isNewline (b : UInt8) : Bool := b = 0x0A

def dropNewlines (text : List UInt8) : List UInt8 := text.rdropWhile isNewline

/-- What is read after a reset is what was saved, the PEM texts up to newlines at their ends. -/
def RoundTrip (c : CredentialTexts) (files : TextFiles) : Prop :=
  ∃ saved back, saveAll c files = some saved ∧ readAll saved = some back ∧
    back.clientId = c.clientId.text ∧
    dropNewlines back.certificatePem = dropNewlines c.certificatePem.text ∧
    dropNewlines back.privatePem = dropNewlines c.privatePem.text

/-- The PEM texts have at most 2000 characters before the newlines at their ends. -/
def ReadsWhole (c : CredentialTexts) : Prop :=
  (dropNewlines c.certificatePem.text).length ≤ 2000 ∧
    (dropNewlines c.privatePem.text).length ≤ 2000

theorem dropNewlines_newlines {text newlines : List UInt8}
    (h : ∀ b ∈ newlines, isNewline b = true) :
    dropNewlines (text ++ newlines) = dropNewlines text := by
  induction newlines using List.reverseRecOn with
  | nil => rw [List.append_nil]
  | append_singleton newlines b ih =>
    rw [List.forall_mem_append, List.forall_mem_singleton] at h
    rw [← List.append_assoc, dropNewlines, List.rdropWhile_concat_pos _ _ _ h.2]
    exact ih h.1

/-- A text that is cut is the same up to newlines at its end if and only if only newlines were
cut off. -/
theorem dropNewlines_take_iff (text : List UInt8) (count : Nat) :
    dropNewlines (text.take count) = dropNewlines text ↔ (dropNewlines text).length ≤ count := by
  constructor
  · intro h
    rw [← h]
    exact (List.rdropWhile_prefix isNewline _).length_le.trans (List.length_take_le _ _)
  · intro h
    have hSplit : dropNewlines text ++ text.rtakeWhile isNewline = text :=
      List.rdropWhile_append_rtakeWhile
    have hTake : text.take count = dropNewlines text ++
        (text.rtakeWhile isNewline).take (count - (dropNewlines text).length) := by
      conv_lhs => rw [← hSplit, List.take_append, List.take_of_length_le h]
    rw [hTake, dropNewlines_newlines fun b hb =>
      List.mem_rtakeWhile_imp (List.mem_of_mem_take hb)]
    exact List.rdropWhile_idempotent isNewline text

theorem putsThrough_eq {size : Nat} {text : List UInt8} (hFits : text.length < size)
    (hNonzero : ∀ b ∈ text, b ≠ 0) : putsThrough size text = some text := by
  rw [putsThrough, sprintf, if_pos hFits, Option.map_some, cString_eq_self hNonzero]

theorem readInto_eq {count size : Nat} {ending text : List UInt8}
    (hFits : count + ending.length < size) (hNonzero : ∀ b ∈ text, b ≠ 0) :
    readInto count ending size text = some (text.take count ++ ending) := by
  have hShort := List.length_take_le count text
  rw [readInto, cString_eq_self fun b hb => hNonzero b (List.mem_of_mem_take hb), sprintf,
    if_pos (by rw [List.length_append]; omega)]

theorem saveAll_eq (c : CredentialTexts) (files : TextFiles) : saveAll c files =
    some ⟨some c.clientId.text, some c.certificatePem.text, some c.privatePem.text⟩ := by
  have hId := putsThrough_eq (c.clientId.fits.trans (by decide : 33 < 50)) c.clientId.nonzero
  have hCert := putsThrough_eq (c.certificatePem.fits.trans (by decide : 3000 < 3010))
    c.certificatePem.nonzero
  have hKey := putsThrough_eq (c.privatePem.fits.trans (by decide : 3000 < 3010))
    c.privatePem.nonzero
  simp only [saveAll, flashClientIdSave, flashClientCertPemSave, flashClientPrivatePemSave, hId,
    hCert, hKey, Option.map_some, Option.bind_eq_bind, Option.bind_some]

theorem readAll_saved (c : CredentialTexts) :
    readAll ⟨some c.clientId.text, some c.certificatePem.text, some c.privatePem.text⟩ =
      some ⟨c.clientId.text, c.certificatePem.text.take 2000 ++ [0x0A],
        c.privatePem.text.take 2000 ++ [0x0A]⟩ := by
  have hId : readInto 50 [] 33 c.clientId.text = some c.clientId.text := by
    have hTake : c.clientId.text.take 50 = c.clientId.text :=
      List.take_of_length_le (c.clientId.fits.le.trans (by decide))
    rw [readInto, hTake, cString_eq_self c.clientId.nonzero, List.append_nil, sprintf,
      if_pos c.clientId.fits]
  have hRead (text : List UInt8) (hNonzero : ∀ b ∈ text, b ≠ 0) :
      readInto 2000 [0x0A] 3000 text = some (text.take 2000 ++ [0x0A]) :=
    readInto_eq (by decide) hNonzero
  simp only [readAll, flashClientPrivatePemRead, flashClientCertPemRead, flashClientIdRead,
    Option.elim_some, hId, hRead _ c.certificatePem.nonzero, hRead _ c.privatePem.nonzero,
    Option.map_some, Option.bind_eq_bind, Option.bind_some]
  rfl

theorem dropNewlines_read (text : List UInt8) :
    dropNewlines (text.take 2000 ++ [0x0A]) = dropNewlines text ↔
      (dropNewlines text).length ≤ 2000 := by
  rw [dropNewlines_newlines (List.forall_mem_singleton.mpr rfl), dropNewlines_take_iff]

theorem RoundTrip.readsWhole {c : CredentialTexts} {files : TextFiles} (h : RoundTrip c files) :
    ReadsWhole c := by
  obtain ⟨saved, back, hSave, hRead, _, hCert, hKey⟩ := h
  rw [saveAll_eq] at hSave
  cases hSave
  rw [readAll_saved] at hRead
  cases hRead
  exact ⟨(dropNewlines_read _).mp hCert, (dropNewlines_read _).mp hKey⟩

/-- The credentials survive a reset if and only if the PEM texts end, but for newlines, within the
2000 bytes that are read. -/
theorem roundTrip_iff (c : CredentialTexts) (files : TextFiles) :
    RoundTrip c files ↔ ReadsWhole c := by
  constructor
  · exact RoundTrip.readsWhole
  · rintro ⟨hCert, hKey⟩
    exact ⟨_, _, saveAll_eq c files, readAll_saved c, rfl, (dropNewlines_read _).mpr hCert,
      (dropNewlines_read _).mpr hKey⟩

def longCertificate : CredentialTexts where
  clientId := ⟨[], by decide, List.forall_mem_nil _⟩
  certificatePem := ⟨List.replicate 2001 0x41, by rw [List.length_replicate]; decide,
    fun b hb => by rw [List.eq_of_mem_replicate hb]; decide⟩
  privatePem := ⟨[], by decide, List.forall_mem_nil _⟩

theorem long_certificate_cut : ¬ RoundTrip longCertificate ⟨none, none, none⟩ := by
  intro h
  have hKept : dropNewlines longCertificate.certificatePem.text =
      longCertificate.certificatePem.text := by
    refine List.rdropWhile_eq_self_iff.mpr fun hSome => ?_
    rw [List.eq_of_mem_replicate (List.getLast_mem hSome)]
    decide
  have hLength : longCertificate.certificatePem.text.length = 2001 := List.length_replicate
  have hWhole := h.readsWhole.1
  rw [hKept, hLength] at hWhole
  omega

/-! ## At the next boot -/

/-- `Credentials.boot` has the PEM texts that are read. -/
theorem readInto_readBack (file : SavedFile) (hNonzero : ∀ b ∈ file.text, b ≠ 0) :
    readInto 2000 [0x0A] 3000 file.text = some (readBack 2000 [0x0A] (some file)).text :=
  readInto_eq (by decide) hNonzero

end FcomGateway
