import LightingBus.Packet.Basic
import LightingBus.Payload.Values
import LightingBus.Proofs.Packet.DiscoveryReply
import LightingBus.Proofs.Payload.Labels

/-!
# Writing and reading typed values

A typed value is written as parameter data and read back. Two things are asked of a writer and its
reader: that reading undoes writing and that what is written fits one packet (`ReadsBack`), and that
the reader takes nothing but what the writer writes (`Canonical`).

1. Words, readings, codes and the flags of a reply are read back from their bytes.
2. A value is read back because each of its fields is. A reader looks at the number of bytes first,
   so what it accepts is a list of that many bytes, and writing the fields gives it again.
3. A list is written value by value and read in pieces of one size. Both directions are inductions,
   the one over the values and the other over the pieces; a reader stops at its capacity, and a list
   of that many values still fits one packet (`canonical_list`).

Three readers take more than is written: that of a reply to muting skips the spare bits, that of a
description stops at a zero byte, and that of the device information skips the protocol version.
-/

namespace LightingBus

variable {α : Type}

/-- Every admitted value fits one packet and is read back from what it is written as. -/
structure ReadsBack (admitted : α → Prop) (encode : α → Bytes) (decode? : Bytes → Option α) :
    Prop where
  fits : ∀ value, admitted value → (encode value).length ≤ maxParameterLength
  decode : ∀ value, admitted value → decode? (encode value) = some value

/-- And whatever the reader accepts is what an admitted value is written as. -/
structure Canonical (admitted : α → Prop) (encode : α → Bytes) (decode? : Bytes → Option α) : Prop
    extends ReadsBack admitted encode decode? where
  reproduces : ∀ bytes value, decode? bytes = some value → admitted value ∧ encode value = bytes

/-! ## Fields -/

namespace Bytes

theorem word_toBytes (w : UInt16) :
    word (UInt8.ofNat (w.toNat / 256)) (UInt8.ofNat w.toNat) = w :=
  word_ofWord w

/-- A reading keeps its sign. -/
theorem reading_toBytes (value : Int16) :
    reading (UInt8.ofNat (value.toUInt16.toNat / 256)) (UInt8.ofNat value.toUInt16.toNat) =
      value := by
  rw [reading, word_toBytes, Int16.toInt16_toUInt16]

@[simp] theorem ofReading_reading (high low : UInt8) :
    ofReading (reading high low) = [high, low] := by
  rw [ofReading, reading, UInt16.toUInt16_toInt16, ofWord_word]

end Bytes

/-- Only the code of a status type is read as it. -/
theorem StatusType.code_of_ofCode? {code : UInt8} {type : StatusType}
    (h : ofCode? code = some type) : type.code = code := by
  unfold ofCode? at h
  split_ifs at h with h₁ h₂ h₃ h₄ h₅ h₆ h₇ h₈ <;> cases h <;> simp [StatusType.code, *]

namespace StartAddress

/-- The addresses a device can have: none, or a slot of a frame. -/
def InRange : StartAddress → Prop
  | .unused => True
  | .slot number => 1 ≤ number ∧ number ≤ 512

instance : DecidablePred InRange
  | .unused => inferInstanceAs (Decidable True)
  | .slot number => inferInstanceAs (Decidable (1 ≤ number ∧ number ≤ 512))

theorem ofWord?_toWord {address : StartAddress} (h : address.InRange) :
    ofWord? address.toWord = some address := by
  cases address with
  | unused => rfl
  | slot number =>
    have hne : number ≠ 0xFFFF := by
      rintro rfl
      exact absurd h (by decide)
    have hrange : 1 ≤ number ∧ number ≤ 512 := h
    rw [toWord, ofWord?, if_neg hne, if_pos hrange]

theorem of_ofWord? {word : UInt16} {address : StartAddress} (h : ofWord? word = some address) :
    address.InRange ∧ address.toWord = word := by
  unfold ofWord? at h
  split_ifs at h with hunused hrange
  · cases h
    exact ⟨trivial, hunused.symm⟩
  · cases h
    exact ⟨hrange, rfl⟩

end StartAddress

/-! ## Single values -/

/-- The four flags do not touch each other. -/
theorem MuteReply.hasFlag_flags (reply : MuteReply) :
    hasFlag reply.flags 1 = reply.managedProxy ∧ hasFlag reply.flags 2 = reply.subDevice ∧
      hasFlag reply.flags 4 = reply.bootLoader ∧ hasFlag reply.flags 8 = reply.proxyDevice := by
  have hbits : ∀ proxy sub boot answered : Bool,
      hasFlag (flags ⟨proxy, sub, boot, answered, none⟩) 1 = proxy ∧
        hasFlag (flags ⟨proxy, sub, boot, answered, none⟩) 2 = sub ∧
        hasFlag (flags ⟨proxy, sub, boot, answered, none⟩) 4 = boot ∧
        hasFlag (flags ⟨proxy, sub, boot, answered, none⟩) 8 = answered := by decide
  exact hbits reply.managedProxy reply.subDevice reply.bootLoader reply.proxyDevice

theorem MuteReply.ofFlags_flags (reply : MuteReply) :
    ofFlags reply.flags reply.binding = reply := by
  obtain ⟨hproxy, hsub, hboot, hanswered⟩ := reply.hasFlag_flags
  rw [ofFlags, hproxy, hsub, hboot, hanswered]

theorem MuteReply.readsBack : ReadsBack (fun _ => True) encode decode? where
  fits reply _ := by
    cases hbinding : reply.binding <;> simp [encode, hbinding, Uid.toBytes, maxParameterLength]
  decode reply _ := by
    cases hbinding : reply.binding with
    | none =>
      simp only [encode, hbinding, Option.map_none, Option.getD_none, List.append_nil, decode?]
      rw [← hbinding, ofFlags_flags]
    | some uid =>
      have hread : encode reply = reply.flags :: 0 :: uid.toBytes := by simp [encode, hbinding]
      have hdecode : decode? (reply.flags :: 0 :: uid.toBytes) =
          (Uid.ofBytes? uid.toBytes).map fun uid => ofFlags reply.flags (some uid) := rfl
      rw [hread, hdecode, Uid.ofBytes?_toBytes, Option.map_some, ← hbinding, ofFlags_flags]

theorem StatusMessage.canonical : Canonical (fun _ => True) encode decode? where
  fits m _ := by rw [length_encode]; decide
  decode m _ := by
    simp [encode, decode?, Bytes.ofWord]
  reproduces bytes m h := by
    refine ⟨trivial, ?_⟩
    unfold decode? at h
    split at h
    · obtain ⟨type, htype, rfl⟩ := Option.map_eq_some_iff.mp h
      simp [encode, StatusType.code_of_ofCode? htype]
    · cases h

theorem Personality.canonical : Canonical (fun _ => True) encode decode? where
  fits p _ := by simp [encode, maxParameterLength]
  decode _ _ := rfl
  reproduces bytes p h := by
    refine ⟨trivial, ?_⟩
    unfold decode? at h
    split at h
    · cases h
      rfl
    · cases h

theorem PersonalityDescription.readsBack :
    ReadsBack (fun d => 0 ∉ d.description.toBytes) encode decode? where
  fits d _ := by
    have hlength := d.description.length_toBytes_le
    simp only [encode, List.length_append, List.length_singleton, Bytes.length_ofWord,
      maxParameterLength, Label.maxLength] at hlength ⊢
    omega
  decode d h := by
    simp [encode, decode?, Bytes.ofWord, Label.decode?_toBytes h]

theorem SensorReading.canonical : Canonical (fun _ => True) encode decode? where
  fits r _ := by rw [length_encode]; decide
  decode r _ := by
    show some _ = some r
    simp only [Bytes.reading_toBytes]
  reproduces bytes r h := by
    refine ⟨trivial, ?_⟩
    unfold decode? at h
    split at h
    · cases h
      simp [encode]
    · cases h

theorem DeviceInfo.readsBack :
    ReadsBack (fun info => info.startAddress.InRange) encode decode? where
  fits info _ := by rw [length_encode]; decide
  decode info h := by
    simp [encode, decode?, Personality.encode, StartAddress.encode, Bytes.ofWord, Bytes.ofDword,
      StartAddress.ofWord?_toWord h]

theorem StartAddress.canonical : Canonical InRange encode decode? where
  fits address _ := by simp [encode, maxParameterLength]
  decode address h := by
    simp [encode, decode?, Bytes.ofWord, ofWord?_toWord h]
  reproduces bytes address h := by
    unfold decode? at h
    split at h
    · obtain ⟨hrange, hword⟩ := of_ofWord? h
      exact ⟨hrange, by rw [encode, hword, Bytes.ofWord_word]⟩
    · cases h

/-! ## Lists -/

theorem readStatusMessages?_flatMap (messages : List StatusMessage) :
    readStatusMessages? (messages.flatMap StatusMessage.encode) = some messages := by
  induction messages with
  | nil => rfl
  | cons m messages ih =>
    have hread : readStatusMessages? ((m :: messages).flatMap StatusMessage.encode) = (do
        let m ← StatusMessage.decode? m.encode
        return m :: (← readStatusMessages? (messages.flatMap StatusMessage.encode))) := rfl
    rw [hread, StatusMessage.canonical.decode m trivial, ih]
    rfl

theorem flatMap_of_readStatusMessages? {bytes : Bytes} : ∀ {messages : List StatusMessage},
    readStatusMessages? bytes = some messages → messages.flatMap StatusMessage.encode = bytes := by
  fun_induction readStatusMessages? bytes with
  | case1 =>
    rintro messages ⟨⟩
    rfl
  | case2 s₁ s₀ code i₁ i₀ a₁ a₀ b₁ b₀ rest ih =>
    intro messages h
    obtain ⟨m, hm, htail⟩ := Option.bind_eq_some_iff.mp h
    obtain ⟨tail, hrest, hmessages⟩ := Option.bind_eq_some_iff.mp htail
    obtain rfl : m :: tail = messages := Option.some.inj hmessages
    rw [List.flatMap_cons, ih hrest, (StatusMessage.canonical.reproduces _ _ hm).2]
    rfl
  | case3 => intro messages h; cases h

theorem readWords?_flatMap (words : List UInt16) :
    readWords? (words.flatMap Bytes.ofWord) = some words := by
  induction words with
  | nil => rfl
  | cons word words ih =>
    have hread : readWords? ((word :: words).flatMap Bytes.ofWord) =
        (readWords? (words.flatMap Bytes.ofWord)).map
          (Bytes.word (UInt8.ofNat (word.toNat / 256)) (UInt8.ofNat word.toNat) :: ·) := rfl
    rw [hread, ih, Bytes.word_toBytes]
    rfl

theorem flatMap_of_readWords? {bytes : Bytes} : ∀ {words : List UInt16},
    readWords? bytes = some words → words.flatMap Bytes.ofWord = bytes := by
  fun_induction readWords? bytes with
  | case1 =>
    rintro words ⟨⟩
    rfl
  | case2 high low rest ih =>
    intro words h
    obtain ⟨tail, hrest, rfl⟩ := Option.map_eq_some_iff.mp h
    rw [List.flatMap_cons, ih hrest, Bytes.ofWord_word]
    rfl
  | case3 => intro words h; cases h

/-- A list of at most `most` values of one size, which is read by a reader of whole lists. -/
theorem canonical_list {encode : α → Bytes} {read? : Bytes → Option (List α)} {most size : ℕ}
    (hsize : ∀ value, (encode value).length = size) (hfits : most * size ≤ maxParameterLength)
    (hread : ∀ values : List α, read? (values.flatMap encode) = some values)
    (hreproduces : ∀ {bytes values}, read? bytes = some values → values.flatMap encode = bytes) :
    Canonical (fun values => values.length ≤ most) (fun values => values.flatMap encode)
      fun bytes => (read? bytes).bind fun values =>
        if values.length ≤ most then some values else none where
  fits values h := by
    have hlength : (values.flatMap encode).length = values.length * size := by
      simp [List.length_flatMap, hsize]
    rw [hlength]
    exact Nat.le_trans (Nat.mul_le_mul_right size h) hfits
  decode values h := by
    rw [hread, Option.bind_some, if_pos h]
  reproduces bytes values h := by
    obtain ⟨read, hread, hmost⟩ := Option.bind_eq_some_iff.mp h
    split_ifs at hmost with hlength
    cases hmost
    exact ⟨hlength, hreproduces hread⟩

theorem statusMessages_canonical : Canonical (fun messages => messages.length ≤ maxStatusMessages)
    (fun messages => messages.flatMap StatusMessage.encode) decodeStatusMessages? :=
  canonical_list StatusMessage.length_encode (by decide) readStatusMessages?_flatMap
    flatMap_of_readStatusMessages?

theorem supportedParameters_canonical :
    Canonical (fun pids => pids.length ≤ maxSupportedParameters)
      (fun pids => pids.flatMap Bytes.ofWord) decodeSupportedParameters? :=
  canonical_list Bytes.length_ofWord (by decide) readWords?_flatMap flatMap_of_readWords?

/-! ## All of them -/

/-- **Typed values are read back.** Every value of a typed parameter fits one packet and is read
back from the bytes it is written as: every reply to muting, every description without a zero byte,
every device information and start address with an address a device can have, every status message,
personality and sensor reading, and every list of status messages or parameters within its capacity.
The readers from the start address on accept nothing else: what they read is written as the very
bytes it was read from. -/
theorem typedValues_readBack :
    ReadsBack (fun _ => True) MuteReply.encode MuteReply.decode? ∧
      ReadsBack (fun description => 0 ∉ description.description.toBytes)
        PersonalityDescription.encode PersonalityDescription.decode? ∧
      ReadsBack (fun info => info.startAddress.InRange) DeviceInfo.encode DeviceInfo.decode? ∧
      Canonical StartAddress.InRange StartAddress.encode StartAddress.decode? ∧
      Canonical (fun _ => True) StatusMessage.encode StatusMessage.decode? ∧
      Canonical (fun _ => True) Personality.encode Personality.decode? ∧
      Canonical (fun _ => True) SensorReading.encode SensorReading.decode? ∧
      Canonical (fun messages => messages.length ≤ maxStatusMessages)
        (fun messages => messages.flatMap StatusMessage.encode) decodeStatusMessages? ∧
      Canonical (fun pids => pids.length ≤ maxSupportedParameters)
        (fun pids => pids.flatMap Bytes.ofWord) decodeSupportedParameters? :=
  ⟨MuteReply.readsBack, PersonalityDescription.readsBack, DeviceInfo.readsBack,
    StartAddress.canonical, StatusMessage.canonical, Personality.canonical, SensorReading.canonical,
    statusMessages_canonical, supportedParameters_canonical⟩

/-- An address in front of the first slot is written but not read. -/
example : StartAddress.decode? (StartAddress.encode (.slot 0)) = none := by decide

end LightingBus
