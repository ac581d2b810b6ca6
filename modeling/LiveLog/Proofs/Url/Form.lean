import LiveLog.Proofs.Url.Percent
import LiveLog.Url.Form
import Mathlib.Data.List.TakeWhile

/-!
# Queries are read back

Reading a form undoes writing it, for every list of names and values (`decode?_encode`). A server reads in
this order: it cuts at every `&`, drops what is empty, cuts what is left at its first `=`, takes each `+`
for a blank, and only then undoes escapes. So a plus, a percent sign or a sign to cut at must not come
out of a value unescaped, and an empty value must leave something behind: the `=` of its pair does.

The reader here is a strict one: it has no answer where escapes do not add up to a text, which a lenient
one would patch. Where it has an answer the two agree.
-/

namespace LiveLog.Url.Form

/-- A plus stands for a blank. -/
def unplus (c : Char) : Char := if c == '+' then ' ' else c

/-- The text that a written name or value stands for. -/
def decodeText? (cs : List Char) : Option String :=
  String.fromUTF8? (ByteArray.mk
    (percentDecode (String.ofList (cs.map unplus)).toUTF8.toList).toArray)

/-- A pair, whose name ends at the first `=`. -/
def decodePair? (cs : List Char) : Option (String × String) := do
  let name ← decodeText? (cs.takeWhile (· != '='))
  let value ← decodeText? ((cs.dropWhile (· != '=')).drop 1)
  some (name, value)

/-- **Reads a query.** -/
def decode? (query : String) : Option (List (String × String)) :=
  ((query.toList.splitOn '&').filter (!·.isEmpty)).mapM decodePair?

/-! ## 1. Bytes -/

theorem toList_byteArray (bs : ByteArray) : bs.toList = bs.data.toList := by
  have hloop (i : Nat) (read : List UInt8) :
      ByteArray.toList.loop bs i read = read.reverse ++ bs.data.toList.drop i := by
    induction i, read using ByteArray.toList.loop.induct bs with
    | case1 i read hlt ih =>
      have hi : i < bs.data.toList.length := by simpa using hlt
      have hget : bs.get! i = bs.data.toList[i] := by
        rw [ByteArray.get!, Array.getElem_toList]
        exact getElem!_pos bs.data i (by simpa using hlt)
      rw [ByteArray.toList.loop, if_pos hlt, ih, List.drop_eq_getElem_cons hi, hget]
      simp
    | case2 i read hge =>
      have hend : bs.data.toList.length ≤ i := by simpa using hge
      rw [ByteArray.toList.loop, if_neg hge, List.drop_eq_nil_of_le hend, List.append_nil]
  rw [ByteArray.toList, hloop]
  simp

/-- The bytes of a text in ASCII are its characters. -/
theorem bytes_of_ascii {cs : List Char} (h : ∀ c ∈ cs, c.toNat < 0x80) :
    (String.ofList cs).toUTF8.toList = cs.map fun c => UInt8.ofNat c.toNat := by
  rw [toList_byteArray, String.toUTF8, String.toByteArray_ofList, List.utf8Encode,
    List.toList_data_toByteArray]
  induction cs with
  | nil => rfl
  | cons c rest ih =>
    have hc : c.utf8Size = 1 := by
      have hlt : c.val.toNat < 0x80 := h c List.mem_cons_self
      rw [Char.utf8Size_eq_one_iff, UInt32.le_iff_toNat_le]
      exact Nat.le_of_lt_succ hlt
    rw [List.flatMap_cons, String.utf8EncodeChar_eq_singleton hc,
      ih fun d hd => h d (List.mem_cons_of_mem c hd)]
    rfl

/-- A text is the text of its bytes. -/
theorem fromUTF8?_toUTF8 (s : String) :
    String.fromUTF8? (ByteArray.mk s.toUTF8.toList.toArray) = some s := by
  rw [toList_byteArray, Array.toArray_toList]
  exact dif_pos s.isValidUTF8

/-! ## 2. What is written -/

theorem bounds_of_isPlain {b : UInt8} (h : isPlain b = true) :
    0x2A ≤ b.toNat ∧ b.toNat < 0x80 ∧ b.toNat ≠ 0x2B ∧ b.toNat ≠ 0x3D := by
  have hsigns : ∀ c ∈ ['*', '-', '.', '_'],
      0x2A ≤ c.toNat ∧ c.toNat < 0x80 ∧ c.toNat ≠ 0x2B ∧ c.toNat ≠ 0x3D := by simp
  have hletters : '0'.toNat = 0x30 ∧ '9'.toNat = 0x39 ∧ 'A'.toNat = 0x41 ∧ 'Z'.toNat = 0x5A ∧
    'a'.toNat = 0x61 ∧ 'z'.toNat = 0x7A := by decide
  simp only [isPlain, Bool.or_eq_true, Bool.and_eq_true, decide_eq_true_eq] at h
  rcases h with ((hdigit | hcapital) | hsmall) | hsign
  · omega
  · omega
  · omega
  · rw [← toNat_charOfByte]
    exact hsigns _ (isOneOf_iff.mp hsign)

/-- A written byte is ASCII and none of the signs that a query is cut at. -/
theorem plain_of_mem_encodeByte {b : UInt8} {c : Char} (h : c ∈ encodeByte b) :
    c.toNat < 0x80 ∧ c ∉ ['&', '=', '#'] := by
  unfold encodeByte at h
  split at h
  · rw [List.mem_singleton.mp h]
    decide
  · split at h
    · rename_i hplain
      obtain ⟨hlow, hhigh, -, hequals⟩ := bounds_of_isPlain hplain
      rw [List.mem_singleton.mp h, toNat_charOfByte]
      refine ⟨hhigh, ?_⟩
      intro hmem
      have hsigns : ∀ c ∈ ['&', '=', '#'], c.toNat < 0x2A ∨ c.toNat = 0x3D := by simp
      have hsign := hsigns _ hmem
      rw [toNat_charOfByte] at hsign
      omega
    · have hescape : ∀ n < 16, hexCapital n ∉ ['&', '=', '#'] := by decide
      rcases mem_escapeByte h with rfl | ⟨n, hn, rfl⟩
      · decide
      · exact ⟨toNat_hexCapital_lt n hn, hescape n hn⟩

theorem plain_of_mem_encodeText {s : String} {c : Char} (h : c ∈ encodeText s) :
    c.toNat < 0x80 ∧ c ∉ ['&', '=', '#'] := by
  obtain ⟨b, -, hb⟩ := List.mem_flatMap.mp h
  exact plain_of_mem_encodeByte hb

/-! ## 3. Names and values -/

/-- **A byte is read back**, whatever follows it. -/
theorem percentDecode_encodeByte (b : UInt8) (rest : List UInt8) :
    percentDecode (((encodeByte b).map unplus).map (fun c => UInt8.ofNat c.toNat) ++ rest) =
      b :: percentDecode rest := by
  unfold encodeByte
  split
  · rename_i hblank
    rw [beq_iff_eq.mp hblank]
    exact percentDecode_cons_of_ne (by decide) rest
  · split
    · rename_i hplain
      obtain ⟨hlow, hhigh, hplus, -⟩ := bounds_of_isPlain hplain
      have hsame : unplus (Char.ofNat b.toNat) = Char.ofNat b.toNat := by
        have hne : Char.ofNat b.toNat ≠ '+' := by
          intro hc
          exact hplus (by rw [← toNat_charOfByte, hc]; rfl)
        rw [unplus, if_neg (by simpa using hne)]
      have hpercent : b ≠ 0x25 := by
        rintro rfl
        exact absurd hlow (by decide)
      rw [List.map_singleton, List.map_singleton, hsame, toNat_charOfByte, UInt8.ofNat_toNat]
      exact percentDecode_cons_of_ne hpercent rest
    · have hsame : (escapeByte b).map unplus = escapeByte b := by
        have hescape : ∀ n < 16, unplus (hexCapital n) = hexCapital n := by decide
        have hb := b.toNat_lt
        rw [escapeByte, List.map_cons, List.map_cons, List.map_singleton, hescape _ (by omega),
          hescape _ (by omega)]
        rfl
      rw [hsame]
      exact percentDecode_escapeByte b rest

/-- **A name or a value is read back.** -/
theorem decodeText?_encodeText (s : String) : decodeText? (encodeText s) = some s := by
  have hascii : ∀ c ∈ (encodeText s).map unplus, c.toNat < 0x80 := by
    intro c hc
    obtain ⟨d, hd, rfl⟩ := List.mem_map.mp hc
    unfold unplus
    split
    · decide
    · exact (plain_of_mem_encodeText hd).1
  have hbytes (bs : List UInt8) :
      percentDecode (((bs.flatMap encodeByte).map unplus).map fun c => UInt8.ofNat c.toNat) = bs := by
    induction bs with
    | nil => rfl
    | cons b bs ih =>
      rw [List.flatMap_cons, List.map_append, List.map_append, percentDecode_encodeByte, ih]
  rw [decodeText?, bytes_of_ascii hascii, encodeText, hbytes, fromUTF8?_toUTF8]

theorem decodePair?_encodePair (p : String × String) : decodePair? (encodePair p) = some p := by
  have hname : ∀ c ∈ encodeText p.1, (c != '=') = true := by
    intro c hc
    exact bne_iff_ne.mpr fun heq => (plain_of_mem_encodeText hc).2 (by simp [heq])
  rw [decodePair?, encodePair, List.takeWhile_append_of_pos hname, List.dropWhile_append_of_pos hname]
  simp [decodeText?_encodeText]

/-! ## 4. Queries -/

theorem not_mem_encodePair {c : Char} (hc : c = '&' ∨ c = '#') (p : String × String) :
    c ∉ encodePair p := by
  intro hmem
  have hsign : c ∈ ['&', '=', '#'] := by rcases hc with rfl | rfl <;> decide
  rcases List.mem_append.mp hmem with hname | hvalue
  · exact (plain_of_mem_encodeText hname).2 hsign
  · rcases List.mem_cons.mp hvalue with hequals | hvalue
    · rcases hc with rfl | rfl <;> exact absurd hequals (by decide)
    · exact (plain_of_mem_encodeText hvalue).2 hsign

/-- A query ends where the fragment starts. -/
theorem not_mem_encode (pairs : List (String × String)) : '#' ∉ (encode pairs).toList := by
  intro hmem
  rw [encode, String.toList_ofList] at hmem
  rcases mem_of_mem_intercalate hmem with hsep | ⟨l, hl, hmem⟩
  · exact absurd hsep (by decide)
  · obtain ⟨p, -, rfl⟩ := List.mem_map.mp hl
    exact not_mem_encodePair (.inr rfl) p hmem

theorem mapM_encodePair (pairs : List (String × String)) :
    (pairs.map encodePair).mapM decodePair? = some pairs := by
  induction pairs with
  | nil => rfl
  | cons p rest ih =>
    rw [List.map_cons, List.mapM_cons, decodePair?_encodePair, ih]
    rfl

/-- **A query is read back**: every pair, in order, and nothing else. -/
theorem decode?_encode (pairs : List (String × String)) : decode? (encode pairs) = some pairs := by
  rw [decode?, encode, String.toList_ofList]
  cases pairs with
  | nil => rfl
  | cons p rest =>
    have hcut : ∀ l ∈ (p :: rest).map encodePair, '&' ∉ l := by
      intro l hl
      obtain ⟨q, -, rfl⟩ := List.mem_map.mp hl
      exact not_mem_encodePair (.inl rfl) q
    have hkept : ∀ l ∈ (p :: rest).map encodePair, (!l.isEmpty) = true := by
      intro l hl
      obtain ⟨q, -, rfl⟩ := List.mem_map.mp hl
      simp [encodePair]
    rw [List.splitOn_intercalate '&' hcut (by simp), List.filter_eq_self.mpr hkept, mapM_encodePair]

end LiveLog.Url.Form
