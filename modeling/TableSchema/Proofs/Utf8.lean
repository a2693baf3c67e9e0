import TableSchema.Proofs.FirstFinding
import TableSchema.Text.Utf8

/-!
# UTF-8 is read back

The lead byte of a character announces its continuation bytes, and the range of the first of them holds every code
point that needs this many bytes.  So reading what was written for a character gives the character and goes on behind
it.  Conversely, bytes that are read as a code point are those of its character, since neither overlong forms nor
surrogates are.

Main statements: every text is read back from its bytes (`decodeUtf8_encodeUtf8`), and nothing else is read as this text
(`decodeUtf8_eq_ok_iff`).
-/

namespace TableSchema.Text

private theorem toNat_ofNat_of_lt {n : Nat} (h : n < 256) : (UInt8.ofNat n).toNat = n := by
  rw [UInt8.toNat_ofNat', Nat.mod_eq_of_lt h]

/-- What a byte announces, by its number. -/
private theorem utf8Lead?_ofNat {n : Nat} (h : n < 256) :
    utf8Lead? (.ofNat n) =
      if n < 0x80 then some ⟨0, 0x80, 0xbf, n⟩
      else if n < 0xc2 then none
      else if n < 0xe0 then some ⟨1, 0x80, 0xbf, n - 0xc0⟩
      else if n < 0xf0 then
        some ⟨2, if n = 0xe0 then 0xa0 else 0x80, if n = 0xed then 0x9f else 0xbf, n - 0xe0⟩
      else if n < 0xf5 then
        some ⟨3, if n = 0xf0 then 0x90 else 0x80, if n = 0xf4 then 0x8f else 0xbf, n - 0xf0⟩
      else none := by
  simp [utf8Lead?, UInt8.lt_iff_toNat_lt, ← UInt8.toNat_inj, toNat_ofNat_of_lt h]

/-- A continuation byte within the range adds its six bits. -/
private theorem go_continuation {low high : UInt8} {k : Nat} (left bits good : Nat) (rest : List UInt8)
    (hlow : low.toNat ≤ 0x80 + k % 64) (hhigh : 0x80 + k % 64 ≤ high.toNat) :
    Utf8Lead.complete.go (left + 1) low high bits good (.ofNat (0x80 + k % 64) :: rest) =
      Utf8Lead.complete.go left 0x80 0xbf (bits * 64 + k % 64) (good + 1) rest := by
  have hbyte : (UInt8.ofNat (0x80 + k % 64)).toNat = 0x80 + k % 64 := toNat_ofNat_of_lt (by omega)
  have hrange : low ≤ UInt8.ofNat (0x80 + k % 64) ∧ UInt8.ofNat (0x80 + k % 64) ≤ high := by
    rw [UInt8.le_iff_toNat_le, UInt8.le_iff_toNat_le, hbyte]
    exact ⟨hlow, hhigh⟩
  rw [Utf8Lead.complete.go, if_pos hrange, hbyte, Nat.add_sub_cancel_left]

/-- The full range of continuation bytes refuses none of them. -/
private theorem go_free (left bits good k : Nat) (rest : List UInt8) :
    Utf8Lead.complete.go (left + 1) 0x80 0xbf bits good (.ofNat (0x80 + k % 64) :: rest) =
      Utf8Lead.complete.go left 0x80 0xbf (bits * 64 + k % 64) (good + 1) rest :=
  go_continuation left bits good rest (Nat.le_add_right 0x80 _) (Nat.add_le_add_left (by omega : k % 64 ≤ 63) 0x80)

/-- A lead byte and as many continuation bytes as it announces, whose bits add up to a code point. -/
def FormsCodePoint (code : Nat) (byte : UInt8) (behind : List UInt8) : Prop :=
  ∃ lead, utf8Lead? byte = some lead ∧ lead.continuations = behind.length ∧
    ∀ rest, lead.complete (behind ++ rest) = .ok code

section CodePoints

variable {n : Nat}

theorem formsCodePoint_one (h : n < 0x80) : FormsCodePoint n (.ofNat n) [] := by
  refine ⟨⟨0, 0x80, 0xbf, n⟩, ?_, rfl, fun rest => rfl⟩
  rw [utf8Lead?_ofNat (by omega), if_pos h]

theorem formsCodePoint_two (hfrom : 0x80 ≤ n) (hto : n < 0x800) :
    FormsCodePoint n (.ofNat (0xc0 + n / 64)) [.ofNat (0x80 + n % 64)] := by
  refine ⟨⟨1, 0x80, 0xbf, n / 64⟩, ?_, rfl, fun rest => ?_⟩
  · rw [utf8Lead?_ofNat (by omega), if_neg (by omega), if_neg (by omega), if_pos (by omega), Nat.add_sub_cancel_left]
  · have hbits : n / 64 * 64 + n % 64 = n := by omega
    rw [Utf8Lead.complete, List.cons_append, go_free, Utf8Lead.complete.go, hbits]

/-- The range of the first continuation byte leaves out overlong forms below it and surrogates above it. -/
theorem formsCodePoint_three (hfrom : 0x800 ≤ n) (hto : n < 0x10000) (hsurrogate : n < 0xd800 ∨ 0xdfff < n) :
    FormsCodePoint n (.ofNat (0xe0 + n / 4096)) [.ofNat (0x80 + n / 64 % 64), .ofNat (0x80 + n % 64)] := by
  refine ⟨⟨2, if n / 4096 = 0 then 0xa0 else 0x80, if n / 4096 = 13 then 0x9f else 0xbf, n / 4096⟩, ?_, rfl,
    fun rest => ?_⟩
  · have h0 : 0xe0 + n / 4096 = 0xe0 ↔ n / 4096 = 0 := by omega
    have h13 : 0xe0 + n / 4096 = 0xed ↔ n / 4096 = 13 := by omega
    rw [utf8Lead?_ofNat (by omega), if_neg (by omega), if_neg (by omega), if_neg (by omega), if_pos (by omega),
      Nat.add_sub_cancel_left]
    simp only [h0, h13]
  · have hlow : (if n / 4096 = 0 then 0xa0 else 0x80 : UInt8).toNat ≤ 0x80 + n / 64 % 64 := by
      split
      · exact show 0xa0 ≤ _ by omega
      · exact Nat.le_add_right 0x80 _
    have hhigh : 0x80 + n / 64 % 64 ≤ (if n / 4096 = 13 then 0x9f else 0xbf : UInt8).toNat := by
      split
      · exact show _ ≤ 0x9f by omega
      · exact show _ ≤ 0xbf by omega
    have hbits : (n / 4096 * 64 + n / 64 % 64) * 64 + n % 64 = n := by omega
    rw [Utf8Lead.complete, List.cons_append, go_continuation _ _ _ _ hlow hhigh, List.cons_append, go_free,
      Utf8Lead.complete.go, hbits]

theorem formsCodePoint_four (hfrom : 0x10000 ≤ n) (hto : n < 0x110000) :
    FormsCodePoint n (.ofNat (0xf0 + n / 262144))
      [.ofNat (0x80 + n / 4096 % 64), .ofNat (0x80 + n / 64 % 64), .ofNat (0x80 + n % 64)] := by
  refine ⟨⟨3, if n / 262144 = 0 then 0x90 else 0x80, if n / 262144 = 4 then 0x8f else 0xbf, n / 262144⟩, ?_, rfl,
    fun rest => ?_⟩
  · have h0 : 0xf0 + n / 262144 = 0xf0 ↔ n / 262144 = 0 := by omega
    have h4 : 0xf0 + n / 262144 = 0xf4 ↔ n / 262144 = 4 := by omega
    rw [utf8Lead?_ofNat (by omega), if_neg (by omega), if_neg (by omega), if_neg (by omega), if_neg (by omega),
      if_pos (by omega), Nat.add_sub_cancel_left]
    simp only [h0, h4]
  · have hlow : (if n / 262144 = 0 then 0x90 else 0x80 : UInt8).toNat ≤ 0x80 + n / 4096 % 64 := by
      split
      · exact show 0x90 ≤ _ by omega
      · exact Nat.le_add_right 0x80 _
    have hhigh : 0x80 + n / 4096 % 64 ≤ (if n / 262144 = 4 then 0x8f else 0xbf : UInt8).toNat := by
      split
      · exact show _ ≤ 0x8f by omega
      · exact show _ ≤ 0xbf by omega
    have hbits : ((n / 262144 * 64 + n / 4096 % 64) * 64 + n / 64 % 64) * 64 + n % 64 = n := by omega
    rw [Utf8Lead.complete, List.cons_append, go_continuation _ _ _ _ hlow hhigh, List.cons_append, go_free,
      List.cons_append, go_free, Utf8Lead.complete.go, hbits]

end CodePoints

/-- The bytes of a character form its code point. -/
theorem exists_formsCodePoint (c : Char) : ∃ byte behind,
    utf8Bytes c = byte :: behind ∧ FormsCodePoint c.toNat byte behind := by
  have hvalid : c.toNat < 0xd800 ∨ 0xdfff < c.toNat ∧ c.toNat < 0x110000 := c.valid
  unfold utf8Bytes
  by_cases h1 : c.toNat < 0x80
  · exact ⟨_, _, if_pos h1, formsCodePoint_one h1⟩
  by_cases h2 : c.toNat < 0x800
  · exact ⟨_, _, by rw [if_neg h1, if_pos h2], formsCodePoint_two (by omega) h2⟩
  by_cases h3 : c.toNat < 0x10000
  · exact ⟨_, _, by rw [if_neg h1, if_neg h2, if_pos h3], formsCodePoint_three (by omega) h3 (hvalid.imp_right And.left)⟩
  · exact ⟨_, _, by rw [if_neg h1, if_neg h2, if_neg h3], formsCodePoint_four (by omega) (by omega)⟩

/-- Reading what was written for a character gives the character. -/
theorem decodeUtf8At_utf8Bytes_append (position : Nat) (c : Char) (rest : List UInt8) :
    decodeUtf8At position (utf8Bytes c ++ rest) =
      (c :: ·) <$> decodeUtf8At (position + (utf8Bytes c).length) rest := by
  obtain ⟨byte, behind, hbytes, lead, hlead, hlength, hcomplete⟩ := exists_formsCodePoint c
  rw [hbytes, List.cons_append, decodeUtf8At, hlead]
  simp only
  rw [hcomplete]
  simp only
  rw [hlength, List.drop_left, List.length_cons, Char.ofNat_toNat, Nat.add_assoc, Nat.add_comm 1]

theorem decodeUtf8At_encodeUtf8 (position : Nat) (text : List Char) :
    decodeUtf8At position (encodeUtf8 text) = .ok text := by
  induction text generalizing position with
  | nil => rw [encodeUtf8, List.flatMap_nil, decodeUtf8At]
  | cons c rest ih =>
    rw [encodeUtf8, List.flatMap_cons, ← encodeUtf8, decodeUtf8At_utf8Bytes_append, ih]
    rfl

/-- A text is read back from its bytes. -/
theorem decodeUtf8_encodeUtf8 (text : List Char) : decodeUtf8 (encodeUtf8 text) = .ok text :=
  decodeUtf8At_encodeUtf8 0 text

/-! ### Only texts are read -/

/-- The bytes of a code point that is a character. -/
private theorem utf8Bytes_ofNat {n : Nat} (h : n.isValidChar) : utf8Bytes (Char.ofNat n) =
    if n < 0x80 then [.ofNat n]
    else if n < 0x800 then [.ofNat (0xc0 + n / 64), .ofNat (0x80 + n % 64)]
    else if n < 0x10000 then [.ofNat (0xe0 + n / 4096), .ofNat (0x80 + n / 64 % 64), .ofNat (0x80 + n % 64)]
    else [.ofNat (0xf0 + n / 262144), .ofNat (0x80 + n / 4096 % 64), .ofNat (0x80 + n / 64 % 64),
      .ofNat (0x80 + n % 64)] := by
  have hn : (Char.ofNat n).toNat = n := by
    rw [Char.ofNat, dif_pos h]
    rfl
  rw [utf8Bytes, hn]

/-- A continuation byte that is read has six bits of its own. -/
private theorem exists_of_go_eq_ok {low high : UInt8} {left bits good code : Nat} {rest : List UInt8}
    (hlow : 0x80 ≤ low.toNat) (h : Utf8Lead.complete.go (left + 1) low high bits good rest = .ok code) :
    ∃ k behind, rest = .ofNat (0x80 + k) :: behind ∧ low.toNat ≤ 0x80 + k ∧ 0x80 + k ≤ high.toNat ∧
      Utf8Lead.complete.go left 0x80 0xbf (bits * 64 + k) (good + 1) behind = .ok code := by
  cases rest with
  | nil => cases h
  | cons byte behind =>
    rw [Utf8Lead.complete.go] at h
    split at h
    · rename_i hrange
      rw [UInt8.le_iff_toNat_le, UInt8.le_iff_toNat_le] at hrange
      have hk : 0x80 + (byte.toNat - 0x80) = byte.toNat := by omega
      refine ⟨byte.toNat - 0x80, behind, ?_, by omega, by omega, h⟩
      rw [hk, UInt8.ofNat_toNat]
    · cases h

private theorem exists_of_go_free {left bits good code : Nat} {rest : List UInt8}
    (h : Utf8Lead.complete.go (left + 1) 0x80 0xbf bits good rest = .ok code) :
    ∃ k behind, rest = .ofNat (0x80 + k) :: behind ∧ k < 0x40 ∧
      Utf8Lead.complete.go left 0x80 0xbf (bits * 64 + k) (good + 1) behind = .ok code := by
  obtain ⟨k, behind, hrest, -, hk, hgo⟩ := exists_of_go_eq_ok (by decide) h
  exact ⟨k, behind, hrest, Nat.lt_of_add_lt_add_left (Nat.lt_succ_of_le hk), hgo⟩

section Bytes

variable {n k₁ k₂ k₃ : Nat}

private theorem utf8Bytes_two (hn : 0xc2 ≤ n) (hn' : n < 0xe0) (h₁ : k₁ < 0x40) :
    utf8Bytes (Char.ofNat ((n - 0xc0) * 64 + k₁)) = [.ofNat n, .ofNat (0x80 + k₁)] := by
  have hlead : 0xc0 + ((n - 0xc0) * 64 + k₁) / 64 = n := by omega
  have hlast : ((n - 0xc0) * 64 + k₁) % 64 = k₁ := by omega
  rw [utf8Bytes_ofNat (.inl (by omega)), if_neg (by omega), if_pos (by omega), hlead, hlast]

private theorem utf8Bytes_three (hn : 0xe0 ≤ n) (hn' : n < 0xf0) (h₁ : k₁ < 0x40) (h₂ : k₂ < 0x40)
    (hoverlong : n = 0xe0 → 0x20 ≤ k₁) (hsurrogate : n = 0xed → k₁ < 0x20) :
    utf8Bytes (Char.ofNat (((n - 0xe0) * 64 + k₁) * 64 + k₂)) =
      [.ofNat n, .ofNat (0x80 + k₁), .ofNat (0x80 + k₂)] := by
  have hvalid : (((n - 0xe0) * 64 + k₁) * 64 + k₂).isValidChar := by
    unfold Nat.isValidChar
    omega
  have hlead : 0xe0 + (((n - 0xe0) * 64 + k₁) * 64 + k₂) / 4096 = n := by omega
  have hfirst : (((n - 0xe0) * 64 + k₁) * 64 + k₂) / 64 % 64 = k₁ := by omega
  have hlast : (((n - 0xe0) * 64 + k₁) * 64 + k₂) % 64 = k₂ := by omega
  rw [utf8Bytes_ofNat hvalid, if_neg (by omega), if_neg (by omega), if_pos (by omega), hlead, hfirst, hlast]

private theorem utf8Bytes_four (hn : 0xf0 ≤ n) (hn' : n < 0xf5) (h₁ : k₁ < 0x40) (h₂ : k₂ < 0x40) (h₃ : k₃ < 0x40)
    (hoverlong : n = 0xf0 → 0x10 ≤ k₁) (hbeyond : n = 0xf4 → k₁ < 0x10) :
    utf8Bytes (Char.ofNat ((((n - 0xf0) * 64 + k₁) * 64 + k₂) * 64 + k₃)) =
      [.ofNat n, .ofNat (0x80 + k₁), .ofNat (0x80 + k₂), .ofNat (0x80 + k₃)] := by
  have hvalid : ((((n - 0xf0) * 64 + k₁) * 64 + k₂) * 64 + k₃).isValidChar := by
    unfold Nat.isValidChar
    omega
  have hlead : 0xf0 + ((((n - 0xf0) * 64 + k₁) * 64 + k₂) * 64 + k₃) / 262144 = n := by omega
  have hfirst : ((((n - 0xf0) * 64 + k₁) * 64 + k₂) * 64 + k₃) / 4096 % 64 = k₁ := by omega
  have hsecond : ((((n - 0xf0) * 64 + k₁) * 64 + k₂) * 64 + k₃) / 64 % 64 = k₂ := by omega
  have hlast : ((((n - 0xf0) * 64 + k₁) * 64 + k₂) * 64 + k₃) % 64 = k₃ := by omega
  rw [utf8Bytes_ofNat hvalid, if_neg (by omega), if_neg (by omega), if_neg (by omega), hlead, hfirst, hsecond, hlast]

end Bytes

/-- Bytes that are read as a code point are the bytes of this character. -/
theorem utf8Bytes_of_complete {byte : UInt8} {lead : Utf8Lead} {rest : List UInt8} {code : Nat}
    (hlead : utf8Lead? byte = some lead) (hcomplete : lead.complete rest = .ok code) :
    byte :: rest = utf8Bytes (Char.ofNat code) ++ rest.drop lead.continuations := by
  obtain ⟨n, hn, rfl⟩ : ∃ n < 256, byte = .ofNat n := ⟨byte.toNat, byte.toNat_lt, UInt8.ofNat_toNat.symm⟩
  rw [utf8Lead?_ofNat hn] at hlead
  unfold Utf8Lead.complete at hcomplete
  split at hlead
  · rename_i h
    cases hlead
    cases hcomplete
    rw [utf8Bytes_ofNat (.inl (Nat.lt_trans h (by decide))), if_pos h]
    rfl
  split at hlead
  · cases hlead
  split at hlead
  · cases hlead
    obtain ⟨k₁, behind, rfl, h₁, hcode⟩ := exists_of_go_free hcomplete
    cases hcode
    rw [utf8Bytes_two (by omega) (by omega) h₁]
    rfl
  split at hlead
  · cases hlead
    have hfree : 0x80 ≤ (if n = 0xe0 then 0xa0 else 0x80 : UInt8).toNat := by split <;> decide
    obtain ⟨k₁, behind, rfl, hlow, hhigh, hmore⟩ := exists_of_go_eq_ok hfree hcomplete
    obtain ⟨k₂, behind, rfl, h₂, hcode⟩ := exists_of_go_free hmore
    cases hcode
    simp only [apply_ite UInt8.toNat, UInt8.reduceToNat] at hlow hhigh
    rw [utf8Bytes_three (by omega) (by omega) (by split at hhigh <;> omega) h₂
      (fun h => by rw [if_pos h] at hlow; omega) (fun h => by rw [if_pos h] at hhigh; omega)]
    rfl
  split at hlead
  · cases hlead
    have hfree : 0x80 ≤ (if n = 0xf0 then 0x90 else 0x80 : UInt8).toNat := by split <;> decide
    obtain ⟨k₁, behind, rfl, hlow, hhigh, hmore⟩ := exists_of_go_eq_ok hfree hcomplete
    obtain ⟨k₂, behind, rfl, h₂, hmore⟩ := exists_of_go_free hmore
    obtain ⟨k₃, behind, rfl, h₃, hcode⟩ := exists_of_go_free hmore
    cases hcode
    simp only [apply_ite UInt8.toNat, UInt8.reduceToNat] at hlow hhigh
    rw [utf8Bytes_four (by omega) (by omega) (by split at hhigh <;> omega) h₂ h₃
      (fun h => by rw [if_pos h] at hlow; omega) (fun h => by rw [if_pos h] at hhigh; omega)]
    rfl
  · cases hlead

/-- Only the bytes of a text are read as this text. -/
theorem encodeUtf8_of_decodeUtf8At {position : Nat} {bytes : List UInt8} {text : List Char}
    (h : decodeUtf8At position bytes = .ok text) : encodeUtf8 text = bytes := by
  induction position, bytes using decodeUtf8At.induct generalizing text with
  | case1 position =>
    rw [decodeUtf8At] at h
    cases h
    rfl
  | case2 position byte rest hlead =>
    rw [decodeUtf8At, hlead] at h
    cases h
  | case3 position byte rest lead hlead good fault hcomplete =>
    rw [decodeUtf8At, hlead] at h
    simp only [hcomplete] at h
    cases h
  | case4 position byte rest lead hlead code hcomplete ih =>
    rw [decodeUtf8At, hlead] at h
    simp only [hcomplete] at h
    obtain ⟨more, hmore, rfl⟩ := map_eq_ok_iff.1 h
    rw [utf8Bytes_of_complete hlead hcomplete, encodeUtf8, List.flatMap_cons, ← encodeUtf8, ih hmore]

/-- Bytes are read as a text exactly if they are the bytes of the text. -/
theorem decodeUtf8_eq_ok_iff {bytes : List UInt8} {text : List Char} :
    decodeUtf8 bytes = .ok text ↔ bytes = encodeUtf8 text := by
  constructor
  · exact fun h => (encodeUtf8_of_decodeUtf8At h).symm
  · rintro rfl
    exact decodeUtf8_encodeUtf8 text

end TableSchema.Text
