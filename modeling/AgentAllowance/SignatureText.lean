import AgentAllowance.OwnerSession
import AgentAllowance.WalletSent

/-!
# The text of a signature

A wallet hands over its signature as base64. The SDK and the console each have a decoder for it,
and both accept the text that the signature is encoded as and no other.
-/

namespace AgentAllowance.WalletAdmin
open Stellar Console

/-- `toString("base64")` encodes as RFC 4648 does, and `Buffer.from(text, "base64")` decodes such
text, of which the last digit may have bits that belong to no byte. -/
structure StandardBase64 (wallet : WalletSdk) : Prop where
  encodes : ∀ bytes, wallet.toBase64 bytes = String.ofList (Base64.encode .base64 bytes)
  decodes : ∀ digits, (∀ n ∈ digits, n < 64) → digits.length % 4 ≠ 1 →
    wallet.fromBase64 (String.ofList (Base64.textOf .base64 digits)) = Base64.bytesOf digits

/-- Without the white space around it, `value` is the base64 text of the 64 bytes `signature`. -/
def EncodesSignature (value : String) (signature : Bytes) : Prop :=
  signature.length = 64 ∧ trim value = String.ofList (Base64.encode .base64 signature)

theorem digit_plain : ∀ n < 64, isBase64Char (Base64.digit .base64 n) = true ∧
    isWhitespace (Base64.digit .base64 n) = false := by
  decide

theorem textOf_plain {digits : List ℕ} (hlt : ∀ n ∈ digits, n < 64) :
    ∀ c ∈ Base64.textOf .base64 digits, isWhitespace c = false := by
  intro c hc
  rcases List.mem_append.mp hc with hdigit | hpad
  · obtain ⟨n, hn, rfl⟩ := List.mem_map.mp hdigit
    exact (digit_plain n (hlt n hn)).2
  · rw [List.eq_of_mem_replicate hpad]
    rfl

/-- The regular expression matches 86 digits and two characters of padding. -/
theorem textOf_form {digits : List ℕ} (hlength : digits.length = 86) (hlt : ∀ n ∈ digits, n < 64) :
    trimmed (Base64.textOf .base64 digits) = Base64.textOf .base64 digits ∧
      (Base64.textOf .base64 digits).length = 88 ∧
      ((Base64.textOf .base64 digits).take 86).all isBase64Char = true ∧
      (Base64.textOf .base64 digits).drop 86 = ['=', '='] := by
  let text := digits.map (Base64.digit .base64)
  have htext : text.length = 86 := (List.length_map _).trans hlength
  have hchars : ∀ c ∈ text, isBase64Char c = true := by
    intro c hc
    obtain ⟨n, hn, rfl⟩ := List.mem_map.mp hc
    exact (digit_plain n (hlt n hn)).1
  have hform : Base64.textOf .base64 digits = text ++ ['=', '='] := by
    rw [Base64.textOf, hlength]
    rfl
  refine ⟨trim_of_plain (textOf_plain hlt), ?_⟩
  rw [hform, List.take_left' htext, List.drop_left' htext, List.length_append, htext]
  exact ⟨rfl, List.all_eq_true.mpr hchars, rfl⟩

/-- White space around a text without white space is removed. -/
theorem trimmed_spaced {before text after : List Char} (hbefore : ∀ c ∈ before, isWhitespace c)
    (htext : ∀ c ∈ text, isWhitespace c = false) (hne : text ≠ [])
    (hafter : ∀ c ∈ after, isWhitespace c) : trimmed (before ++ (text ++ after)) = text := by
  have hhead : (text ++ after).dropWhile isWhitespace = text ++ after := by
    obtain ⟨c, cs, rfl⟩ := List.exists_cons_of_ne_nil hne
    exact List.dropWhile_cons_of_neg (by simp [htext c List.mem_cons_self])
  have hlast : (text ++ after).rdropWhile isWhitespace = text.rdropWhile isWhitespace := by
    rw [List.rdropWhile, List.reverse_append, List.dropWhile_append_of_pos, List.rdropWhile]
    exact fun c hc => hafter c (List.mem_reverse.mp hc)
  have hkept : text.rdropWhile isWhitespace = text := by
    rw [List.rdropWhile_eq_self_iff]
    intro hne
    simp [htext _ (List.getLast_mem hne)]
  rw [trimmed, List.dropWhile_append_of_pos hbefore, hhead, hlast, hkept]

theorem encode_form {signature : Bytes} (hlength : signature.length = 64) :
    Base64.encode .base64 signature = Base64.textOf .base64 (Base64.digitsOf signature) ∧
      (Base64.digitsOf signature).length = 86 := by
  rw [Base64.length_digitsOf, hlength]
  exact ⟨Base64.encode_eq_textOf .base64 signature, rfl⟩

theorem decodeWalletSignature_eq_some {value : String} {signature : Bytes} :
    decodeWalletSignature value = some signature ↔ EncodesSignature value signature := by
  unfold EncodesSignature trim decodeWalletSignature
  constructor
  · intro h
    simp only at h
    split_ifs at h with hform hcanonical
    obtain rfl := Option.some.inj h
    exact ⟨hcanonical.1, congrArg String.ofList hcanonical.2.symm⟩
  · rintro ⟨hlength, htext⟩
    obtain ⟨hencoded, hdigits⟩ := encode_form hlength
    obtain ⟨-, hform⟩ := textOf_form hdigits (Base64.digitsOf_lt signature)
    rw [← hencoded] at hform
    simp only [String.ofList_injective htext, hform, and_self, if_true, Base64.decode_encode,
      hlength]

theorem decodeFreighterSignature_eq_some {wallet : WalletSdk} (h : StandardBase64 wallet)
    {value : String} {signature : Bytes} :
    decodeFreighterSignature wallet value = some signature ↔ EncodesSignature value signature := by
  have htrimmed : ((value.toList.dropWhile isWhitespace).reverse.dropWhile isWhitespace).reverse =
      trimmed value.toList := rfl
  unfold EncodesSignature trim decodeFreighterSignature
  rw [htrimmed]
  constructor
  · intro hdecoded
    simp only at hdecoded
    split_ifs at hdecoded with hform hcanonical
    obtain rfl := Option.some.inj hdecoded
    rw [h.encodes] at hcanonical
    exact ⟨hcanonical.1, hcanonical.2.symm⟩
  · rintro ⟨hlength, htext⟩
    obtain ⟨hencoded, hdigits⟩ := encode_form hlength
    have hlt := Base64.digitsOf_lt signature
    obtain ⟨-, hform⟩ := textOf_form hdigits hlt
    have hdecoded := h.decodes _ hlt (by rw [hdigits]; decide)
    rw [← hencoded] at hform
    rw [← hencoded, Base64.bytesOf_digitsOf] at hdecoded
    simp only [String.ofList_injective htext, hform, and_self, if_true, hdecoded, hlength,
      h.encodes]

/-- Sixteen texts of 86 digits are decoded as the same bytes. Accepted is the one whose last digit
has none of the four bits that belong to no byte. -/
theorem accepts_spelling_iff {digits : List ℕ} (hlength : digits.length = 86)
    (hlt : ∀ n ∈ digits, n < 64) :
    decodeWalletSignature (String.ofList (Base64.textOf .base64 digits)) =
      some (Base64.bytesOf digits) ↔ Base64.clearUnused digits = digits := by
  have hdigits := Base64.digitsOf_bytesOf hlt (by rw [hlength]; decide)
  have htrim : trim (String.ofList (Base64.textOf .base64 digits)) =
      String.ofList (Base64.textOf .base64 digits) := by
    rw [trim, String.toList_ofList, (textOf_form hlength hlt).1]
  rw [decodeWalletSignature_eq_some, EncodesSignature, htrim, Base64.encode_eq_textOf]
  constructor
  · rintro ⟨-, htext⟩
    have hsame := Base64.textOf_inj .base64 hlt (Base64.digitsOf_lt _)
      (String.ofList_injective htext)
    exact hdigits.symm.trans hsame.symm
  · intro hclear
    rw [hclear] at hdigits
    have hbytes := Base64.length_digitsOf (Base64.bytesOf digits)
    rw [hdigits] at hbytes ⊢
    exact ⟨by omega, rfl⟩

/-- Both decoders accept the base64 texts of 64 bytes, with white space around them, and return
these bytes. -/
theorem signature_decoders {wallet : WalletSdk} (h : StandardBase64 wallet) (value : String) :
    decodeFreighterSignature wallet value = decodeWalletSignature value ∧
      (∀ signature, decodeWalletSignature value = some signature ↔
        EncodesSignature value signature) ∧
      ∀ other signature, decodeWalletSignature value = some signature →
        decodeWalletSignature other = some signature → trim value = trim other := by
  refine ⟨?_, fun _ => decodeWalletSignature_eq_some, ?_⟩
  · apply Option.ext
    intro signature
    rw [decodeFreighterSignature_eq_some h, decodeWalletSignature_eq_some]
  · intro other signature hvalue hother
    rw [decodeWalletSignature_eq_some] at hvalue hother
    exact hvalue.2.trans hother.2.symm

/-- The wallet of the revocation, with the base64 of the runtime. -/
def rfcWallet : WalletSdk :=
  { revocationWallet with
    toBase64 := fun bytes => String.ofList (Base64.encode .base64 bytes)
    fromBase64 := fun text => Base64.decode text.toList }

theorem rfcWallet_standard : StandardBase64 rfcWallet where
  encodes _ := rfl
  decodes digits hlt _ := by
    simp only [rfcWallet, String.toList_ofList, Base64.decode_textOf .base64 hlt]

/-- The owner's signature as the wallet hands it over, and between white space. -/
theorem owner_signature_decoded :
    decodeFreighterSignature rfcWallet ownerWalletSignature = some ownerSignature ∧
      trim ownerWalletSignature = trim (" " ++ (ownerWalletSignature ++ "\n")) := by
  have hlength : ownerSignature.length = 64 := rfl
  obtain ⟨hencoded, hdigits⟩ := encode_form hlength
  have hlt := Base64.digitsOf_lt ownerSignature
  have htext : ownerWalletSignature.toList =
      Base64.textOf .base64 (Base64.digitsOf ownerSignature) := by
    decide +kernel
  have hplain : trim ownerWalletSignature =
      String.ofList (Base64.encode .base64 ownerSignature) := by
    rw [trim, htext, (textOf_form hdigits hlt).1, hencoded]
  have hne : Base64.textOf .base64 (Base64.digitsOf ownerSignature) ≠ [] :=
    List.ne_nil_of_length_pos (by rw [(textOf_form hdigits hlt).2.1]; decide)
  have hspaced : trim (" " ++ (ownerWalletSignature ++ "\n")) =
      String.ofList (Base64.encode .base64 ownerSignature) := by
    rw [trim, String.toList_append, String.toList_append, htext, hencoded,
      trimmed_spaced (by simp [isWhitespace]) (textOf_plain hlt) hne (by simp [isWhitespace])]
  obtain ⟨hsame, haccepts, hcanonical⟩ := signature_decoders rfcWallet_standard ownerWalletSignature
  have hdecoded := (haccepts ownerSignature).mpr ⟨hlength, hplain⟩
  exact ⟨hsame.trans hdecoded, hcanonical _ _ hdecoded
    (decodeWalletSignature_eq_some.mpr ⟨hlength, hspaced⟩)⟩

end AgentAllowance.WalletAdmin
