/-
# Files and their FCP templates (`mtkFcpToLegacy`, `ril_service.cpp`)

A template is the tag `0x62`, a length, and TLV objects for the size, the identifier and the
descriptor of a file, in any order and among others.  The older layout has the same facts at
fixed places.

* `Spells` : hexadecimal digits of either case, and the bytes they stand for;
* `readTlvs_eq`, `translate_eq` : the loop takes in the objects of the template one by one;
* `mtkFcpToLegacy_template` : the template of a file is translated to the response for that file.
-/
import Ct07.Lib.Tlv
import Ct07.Radio.Fcp
import Mathlib.Data.List.GetD

namespace Radio.Fcp

/-! ## Hexadecimal digits -/

/-- `c` is the digit `n`, in one of the cases. -/
def IsHexDigit (c : Char) (n : ℕ) : Prop :=
  n < 16 ∧ (c = "0123456789ABCDEF".toList.getD n ' ' ∨ c = "0123456789abcdef".toList.getD n ' ')

instance (c : Char) (n : ℕ) : Decidable (IsHexDigit c n) := inferInstanceAs (Decidable (_ ∧ _))

/-- A text of two digits for each byte. -/
inductive Spells : Text → List ℕ → Prop
  | nil : Spells [] []
  | cons {c d : Char} {hi lo : ℕ} {hex : Text} {bytes : List ℕ} (hc : IsHexDigit c hi)
      (hd : IsHexDigit d lo) (h : Spells hex bytes) :
      Spells (c :: d :: hex) ((16 * hi + lo) :: bytes)

/-- The digits that `mtkHexNibble` knows. -/
theorem mtkHexNibble_eq {c : Char} {n : ℕ} (h : IsHexDigit c n) : mtkHexNibble c = some n := by
  obtain ⟨hn, rfl | rfl⟩ := h
  · revert n
    decide
  · revert n
    decide

theorem Spells.length_eq {hex : Text} {bytes : List ℕ} (h : Spells hex bytes) :
    hex.length = 2 * bytes.length := by
  induction h with
  | nil => rfl
  | cons hc hd h ih =>
      rw [List.length_cons, List.length_cons, List.length_cons, ih]
      omega

/-- The byte `i` of what is spelled. -/
theorem Spells.hexByte_eq {hex : Text} {bytes : List ℕ} (h : Spells hex bytes) (i : ℕ) {b : ℕ}
    (hb : bytes[i]? = some b) : hexByte hex i = some (some b) := by
  induction h generalizing i with
  | nil => exact absurd hb (by simp)
  | @cons c d hi lo hex bytes hc hd h ih =>
      cases i with
      | zero =>
          cases hb
          show some (do
            let hi ← mtkHexNibble c
            let lo ← mtkHexNibble d
            return 16 * hi + lo) = _
          rw [mtkHexNibble_eq hc, mtkHexNibble_eq hd]
          rfl
      | succ i => exact ih i hb

/-- The bytes of what is spelled. -/
theorem Spells.hexBytes_eq {hex : Text} {bytes : List ℕ} (h : Spells hex bytes) {n : ℕ}
    (hn : n ≤ bytes.length) : hexBytes hex n = some (some (bytes.take n)) := by
  induction n with
  | zero => rfl
  | succ n ih =>
      have hlt : n < bytes.length := hn
      have hbyte := h.hexByte_eq n (List.getElem?_eq_getElem hlt)
      rw [hexBytes, ih (Nat.le_of_lt hlt)]
      simp only [Option.bind_eq_bind, Option.bind_some, hbyte]
      rw [List.take_succ_eq_append_getElem hlt]
      rfl

theorem hexDigit_isHexDigit {n : ℕ} (h : n < 16) : IsHexDigit (hexDigit n) n := by
  refine ⟨h, Or.inl ?_⟩
  revert n
  decide

/-- What is printed spells the bytes. -/
theorem spells_printHex {bytes : List ℕ} (h : ∀ b ∈ bytes, b < 256) :
    Spells (printHex bytes) bytes := by
  induction bytes with
  | nil => exact .nil
  | cons b bytes ih =>
      obtain ⟨hb, hbytes⟩ := List.forall_mem_cons.1 h
      have hhi : b / 16 < 16 := by omega
      have hlo : b % 16 < 16 := by omega
      have hcons := Spells.cons (hexDigit_isHexDigit hhi) (hexDigit_isHexDigit hlo) (ih hbytes)
      rw [Nat.div_add_mod] at hcons
      exact hcons

/-- A character of a range, counted from its first one. -/
theorem char_of_range {first last c : Char} (h : first ≤ c ∧ c ≤ last) :
    c = Char.ofNat (first.toNat + (c.toNat - first.toNat)) ∧
      c.toNat - first.toNat ≤ last.toNat - first.toNat := by
  have hfirst : first.toNat ≤ c.toNat := UInt32.le_iff_toNat_le.1 h.1
  have hlast : c.toNat ≤ last.toNat := UInt32.le_iff_toNat_le.1 h.2
  constructor
  · rw [Nat.add_sub_cancel' hfirst, Char.ofNat_toNat]
  · omega

/-- `mtkHexNibble` knows no other digits. -/
theorem isHexDigit_of_mtkHexNibble {c : Char} {n : ℕ} (h : mtkHexNibble c = some n) :
    IsHexDigit c n := by
  have digits : ∀ m ≤ '9'.toNat - '0'.toNat, IsHexDigit (Char.ofNat ('0'.toNat + m)) m := by
    decide
  have upper : ∀ m ≤ 'F'.toNat - 'A'.toNat, IsHexDigit (Char.ofNat ('A'.toNat + m)) (m + 10) := by
    decide
  have lower : ∀ m ≤ 'f'.toNat - 'a'.toNat, IsHexDigit (Char.ofNat ('a'.toNat + m)) (m + 10) := by
    decide
  unfold mtkHexNibble at h
  split at h
  · rename_i hrange
    obtain ⟨hc, hle⟩ := char_of_range hrange
    cases h
    have hdigit := digits _ hle
    rwa [← hc] at hdigit
  split at h
  · rename_i hrange
    obtain ⟨hc, hle⟩ := char_of_range hrange
    cases h
    have hdigit := upper _ hle
    rwa [← hc] at hdigit
  split at h
  · rename_i hrange
    obtain ⟨hc, hle⟩ := char_of_range hrange
    cases h
    have hdigit := lower _ hle
    rwa [← hc] at hdigit
  · exact absurd h (by simp)

/-! ## The objects of a template -/

/-- `(val[i] << 8) | val[i + 1]` -/
def wordAt (value : List ℕ) (i : ℕ) : ℕ := 256 * value.getD i 0 + value.getD (i + 1) 0

/-- What is known of the file after one more object. -/
def File.absorb (f : File) (t : Tlv) : File :=
  if t.tag = 0x80 then
    if t.value.length ≥ 2 then
      { f with size := wordAt t.value (t.value.length - 2), haveSize := true }
    else f
  else if t.tag = 0x83 then
    if t.value.length = 2 then { f with id := wordAt t.value 0, haveId := true } else f
  else if t.tag = 0x82 then
    if t.value.length ≥ 1 then
      let f := { f with layout := fileLayout (t.value.getD 0 0), haveDesc := true }
      if t.value.length ≥ 5 then { f with recLen := wordAt t.value 2 } else f
    else f
  else f

/-- A word of a value that is inside. -/
theorem word_eq {buf : List ℕ} {val len i : ℕ} (h : val + len ≤ buf.length) (hi : i + 1 < len) :
    word buf val i = some (wordAt ((buf.drop val).take len) i) := by
  have hread : ∀ j < len, buf[val + j]? = some (((buf.drop val).take len).getD j 0) := by
    intro j hj
    have hlt : val + j < buf.length := by omega
    rw [List.getD_eq_getElem?_getD, List.getElem?_take_of_lt hj, List.getElem?_drop,
      List.getElem?_eq_getElem hlt]
    rfl
  rw [word, hread i (by omega), show val + i + 1 = val + (i + 1) from rfl, hread (i + 1) hi]
  rfl

/-- Reading an object whose value is inside. -/
theorem readTlv_eq {buf : List ℕ} {val len : ℕ} (h : val + len ≤ buf.length) (tag : ℕ)
    (f : File) :
    readTlv buf tag len val f = some (f.absorb ⟨tag, (buf.drop val).take len⟩) := by
  have hlength : ((buf.drop val).take len).length = len := by
    rw [List.length_take, List.length_drop]
    omega
  unfold readTlv File.absorb
  simp only [hlength]
  split
  · split
    · rename_i hlen
      rw [word_eq h (by omega)]
      rfl
    · rfl
  split
  · split
    · rename_i hlen
      rw [word_eq h (by omega)]
      rfl
    · rfl
  split
  · split
    · rename_i hlen
      have hfirst : buf[val]? = some (((buf.drop val).take len).getD 0 0) := by
        have hlt : val < buf.length := by omega
        rw [List.getD_eq_getElem?_getD, List.getElem?_take_of_lt hlen, List.getElem?_drop,
          Nat.add_zero, List.getElem?_eq_getElem hlt]
        rfl
      simp only [hfirst, Option.bind_eq_bind, Option.bind_some]
      split
      · rename_i hlong
        rw [word_eq h (by omega)]
        rfl
      · rfl
    · rfl
  · rfl

/-- The next two bytes up to a bound. -/
theorem drop_take_eq_cons {buf : List ℕ} {stop off : ℕ} (htag : off < buf.length)
    (hlen : off + 1 < buf.length) (hmore : off + 2 ≤ stop) :
    (buf.take stop).drop off = buf[off] :: buf[off + 1] :: (buf.take stop).drop (off + 2) := by
  rw [List.drop_eq_getElem_cons (by rw [List.length_take]; omega),
    List.drop_eq_getElem_cons (by rw [List.length_take]; omega)]
  simp only [List.getElem_take]

theorem length_drop_take {buf : List ℕ} {stop : ℕ} (hstop : stop ≤ buf.length) (off : ℕ) :
    ((buf.take stop).drop off).length = stop - off := by
  rw [List.length_drop, List.length_take, Nat.min_eq_left hstop]

/-- A tag without a length is no object. -/
theorem decode_short {bs : List ℕ} (h : bs.length < 2) : Tlv.decode bs = none := by
  cases bs with
  | nil => rfl
  | cons b bs =>
      rw [List.length_cons] at h
      obtain rfl : bs = [] := List.length_eq_zero_iff.1 (by omega)
      rfl

/-- **The loop takes in the objects** that the bytes between its bounds begin with. -/
theorem readTlvs_eq {buf : List ℕ} {stop : ℕ} (hstop : stop ≤ buf.length) (fuel off : ℕ)
    (hpos : 0 < fuel) (hfuel : stop < off + fuel) (f : File) :
    readTlvs buf stop fuel off f =
      some ((Tlv.objects ((buf.take stop).drop off)).foldl File.absorb f) := by
  induction fuel generalizing off f with
  | zero => omega
  | succ fuel ih =>
      have hleft := length_drop_take hstop off
      unfold readTlvs
      by_cases hmore : off + 2 ≤ stop
      · have htag : off < buf.length := by omega
        have hlen : off + 1 < buf.length := by omega
        have hlen' : off + 1 < stop := by omega
        have hrest := length_drop_take hstop (off + 2)
        rw [if_pos hmore, List.getElem?_eq_getElem htag, List.getElem?_eq_getElem hlen,
          drop_take_eq_cons htag hlen hmore]
        simp only [Option.bind_eq_bind, Option.bind_some]
        by_cases hcut : off + 2 + buf[off + 1] > stop
        · have hnone : Tlv.decode (buf[off] :: buf[off + 1] :: (buf.take stop).drop (off + 2)) =
              none := if_pos (by omega)
          rw [if_pos hcut, Tlv.objects_none hnone]
          rfl
        · have hinside : off + 2 + buf[off + 1] ≤ buf.length := by omega
          have hvalue : ((buf.take stop).drop (off + 2)).take buf[off + 1] =
              (buf.drop (off + 2)).take buf[off + 1] := by
            rw [List.drop_take, List.take_take, Nat.min_eq_left (by omega)]
          have hsome : Tlv.decode (buf[off] :: buf[off + 1] :: (buf.take stop).drop (off + 2)) =
              some (⟨buf[off], (buf.drop (off + 2)).take buf[off + 1]⟩,
                (buf.take stop).drop (off + 2 + buf[off + 1])) := by
            have hfits : ¬ ((buf.take stop).drop (off + 2)).length < buf[off + 1] := by omega
            rw [Tlv.decode, if_neg hfits, hvalue, List.drop_drop]
          rw [if_neg hcut, readTlv_eq hinside, Tlv.objects_some hsome, List.foldl_cons]
          exact ih _ (by omega) (by omega) _
      · have hnone : Tlv.decode ((buf.take stop).drop off) = none := decode_short (by omega)
        rw [if_neg hmore, Tlv.objects_none hnone]
        rfl

/-- The file that the objects of a template tell of. -/
def fileOf (tlvs : List Tlv) : File := tlvs.foldl File.absorb .init

/-- **The translation of decoded bytes** that have the tag of a template and a short length. -/
theorem translate_eq {len : ℕ} (hlen : len < 0x80) (body : List ℕ) :
    translate (0x62 :: len :: body) =
      some (if (fileOf (Tlv.objects (body.take len))).complete then
        some (printHex (fileOf (Tlv.objects (body.take len))).legacy) else none) := by
  have hstop : min (2 + len) (0x62 :: len :: body).length = 2 + min len body.length := by
    rw [List.length_cons, List.length_cons]
    omega
  have hbody : ((0x62 :: len :: body).take (2 + min len body.length)).drop 2 = body.take len := by
    rw [Nat.add_comm 2, List.take_succ_cons, List.take_succ_cons]
    show body.take (min len body.length) = _
    rw [List.take_eq_take_iff]
    omega
  have hinside : 2 + min len body.length ≤ (0x62 :: len :: body).length := by
    rw [← hstop]
    exact Nat.min_le_right _ _
  have hread := readTlvs_eq hinside (2 + min len body.length + 1) 2 (Nat.succ_pos _) (by omega)
    .init
  rw [hbody] at hread
  have hshort : ¬ len ≥ 0x80 := Nat.not_le.2 hlen
  unfold translate
  simp only [List.getElem?_cons_zero, List.getElem?_cons_succ, Option.bind_eq_bind,
    Option.bind_some, ne_eq, not_true_eq_false, if_false, if_neg hshort, hstop, hread]
  show (if (fileOf _).complete then _ else _) = _
  split <;> rfl

/-! ## What each object tells -/

/-- A part of the record that only objects of one tag change, and change alike, is what these
objects tell of it. -/
theorem foldl_absorb_filter {α : Type} (part : File → α) (tag : ℕ)
    (hother : ∀ f t, t.tag ≠ tag → part (f.absorb t) = part f)
    (hsame : ∀ f g t, t.tag = tag → part f = part g → part (f.absorb t) = part (g.absorb t))
    (tlvs : List Tlv) {f g : File} (hfg : part f = part g) :
    part (tlvs.foldl File.absorb f) =
      part ((tlvs.filter fun t => t.tag = tag).foldl File.absorb g) := by
  induction tlvs generalizing f g with
  | nil => exact hfg
  | cons t tlvs ih =>
      by_cases htag : t.tag = tag
      · rw [List.filter_cons_of_pos (by simpa using htag), List.foldl_cons, List.foldl_cons]
        exact ih (hsame f g t htag hfg)
      · rw [List.filter_cons_of_neg (by simpa using htag), List.foldl_cons]
        exact ih ((hother f t htag).trans hfg)

/-- What is known of the size. -/
def File.sizePart (f : File) : ℕ × Bool := (f.size, f.haveSize)

def File.idPart (f : File) : ℕ × Bool := (f.id, f.haveId)

def File.descPart (f : File) : ℕ × ℕ × Bool := (f.layout, f.recLen, f.haveDesc)

theorem sizePart_fileOf (tlvs : List Tlv) :
    (fileOf tlvs).sizePart = (fileOf (tlvs.filter fun t => t.tag = 0x80)).sizePart := by
  apply foldl_absorb_filter File.sizePart 0x80 _ _ tlvs rfl
  · intro f t htag
    simp only [File.absorb, File.sizePart, if_neg htag]
    split_ifs <;> rfl
  · intro f g t htag hfg
    simp only [File.absorb, if_pos htag]
    split_ifs
    · rfl
    · exact hfg

theorem idPart_fileOf (tlvs : List Tlv) :
    (fileOf tlvs).idPart = (fileOf (tlvs.filter fun t => t.tag = 0x83)).idPart := by
  apply foldl_absorb_filter File.idPart 0x83 _ _ tlvs rfl
  · intro f t htag
    simp only [File.absorb, File.idPart, if_neg htag]
    split_ifs <;> rfl
  · intro f g t htag hfg
    have hother : t.tag ≠ 0x80 := by omega
    simp only [File.absorb, if_neg hother, if_pos htag]
    split_ifs
    · rfl
    · exact hfg

theorem descPart_fileOf (tlvs : List Tlv) :
    (fileOf tlvs).descPart = (fileOf (tlvs.filter fun t => t.tag = 0x82)).descPart := by
  apply foldl_absorb_filter File.descPart 0x82 _ _ tlvs rfl
  · intro f t htag
    simp only [File.absorb, File.descPart, if_neg htag]
    split_ifs <;> rfl
  · intro f g t htag hfg
    have hsize : t.tag ≠ 0x80 := by omega
    have hid : t.tag ≠ 0x83 := by omega
    simp only [File.absorb, if_neg hsize, if_neg hid, if_pos htag]
    split_ifs
    · rfl
    · have hrecLen : f.recLen = g.recLen := congrArg (fun part => part.2.1) hfg
      simp only [File.descPart, hrecLen]
    · exact hfg

/-! ## Files and templates -/

/-- The structure of an elementary file, with the length of its records. -/
inductive Layout where
  | transparent
  | linearFixed (recordLength : ℕ)
  | cyclic (recordLength : ℕ)
  deriving DecidableEq, Repr

/-- The length of a record; a transparent file has none. -/
def Layout.recordLength : Layout → ℕ
  | .transparent => 0
  | .linearFixed n => n
  | .cyclic n => n

/-- The structure in the older layout. -/
def Layout.code : Layout → ℕ
  | .transparent => 0
  | .linearFixed _ => 1
  | .cyclic _ => 3

structure ElementaryFile where
  size : ℕ
  id : ℕ
  layout : Layout
  size_lt : size < 65536
  id_lt : id < 65536
  recordLength_lt : layout.recordLength < 256

/-- The value of a file descriptor: the low bits of its first byte tell the structure.  The
other bits of that byte, the coding byte and the number of records are free. -/
inductive IsDescriptor : Layout → List ℕ → Prop
  | transparent {fd : ℕ} {rest : List ℕ} (hfd : fd % 8 = 1) (hrest : rest.length < 4) :
      IsDescriptor .transparent (fd :: rest)
  | linearFixed {fd coding records : ℕ} (n : ℕ) (hfd : fd % 8 = 2) :
      IsDescriptor (.linearFixed n) [fd, coding, n / 256, n % 256, records]
  | cyclic {fd coding records : ℕ} (n : ℕ) (hfd : fd % 8 = 6) :
      IsDescriptor (.cyclic n) [fd, coding, n / 256, n % 256, records]

/-- A template of a file, in hexadecimal digits: objects for its size (in two bytes or more), its
identifier and its descriptor, in any order and among objects of other tags. -/
structure Template (file : ElementaryFile) where
  leadingZeros : ℕ
  descriptor : List ℕ
  others : List Tlv
  tlvs : List Tlv
  hex : Text
  isDescriptor : IsDescriptor file.layout descriptor
  others_tag : ∀ t ∈ others, t.tag ≠ 0x80 ∧ t.tag ≠ 0x82 ∧ t.tag ≠ 0x83
  perm : tlvs.Perm (
    ⟨0x80, List.replicate leadingZeros 0 ++ [file.size / 256, file.size % 256]⟩ ::
    ⟨0x83, [file.id / 256, file.id % 256]⟩ :: ⟨0x82, descriptor⟩ :: others)
  short : (tlvs.flatMap Tlv.encode).length < 0x80
  spells : Spells hex (0x62 :: (tlvs.flatMap Tlv.encode).length :: tlvs.flatMap Tlv.encode)

/-- The response to a selection in the older layout: size, identifier, type and status of the
file, its structure, and the length of a record. -/
def getResponse (file : ElementaryFile) : List ℕ :=
  [0, 0, file.size / 256, file.size % 256, file.id / 256, file.id % 256, 4, 0, 0, 0, 0, 1, 2,
    file.layout.code, file.layout.recordLength]

section Templates

variable {file : ElementaryFile} (t : Template file)

/-- The objects of one of the three tags. -/
theorem Template.filter_tlvs :
    t.tlvs.filter (fun x => x.tag = 0x80) =
        [⟨0x80, List.replicate t.leadingZeros 0 ++ [file.size / 256, file.size % 256]⟩] ∧
      t.tlvs.filter (fun x => x.tag = 0x83) = [⟨0x83, [file.id / 256, file.id % 256]⟩] ∧
      t.tlvs.filter (fun x => x.tag = 0x82) = [⟨0x82, t.descriptor⟩] := by
  have hothers : ∀ tag ∈ [0x80, 0x83, 0x82], t.others.filter (fun x => x.tag = tag) = [] := by
    intro tag htag
    rw [List.filter_eq_nil_iff]
    intro x hx
    obtain ⟨h80, h82, h83⟩ := t.others_tag x hx
    simp only [List.mem_cons, List.not_mem_nil, or_false] at htag
    rcases htag with rfl | rfl | rfl <;> simpa
  have h80 := hothers 0x80 (by simp)
  have h83 := hothers 0x83 (by simp)
  have h82 := hothers 0x82 (by simp)
  refine ⟨?_, ?_, ?_⟩
  · rw [← List.perm_singleton]
    exact (t.perm.filter _).trans (by simp [h80])
  · rw [← List.perm_singleton]
    exact (t.perm.filter _).trans (by simp [h83])
  · rw [← List.perm_singleton]
    exact (t.perm.filter _).trans (by simp [h82])

/-- The last word of a value. -/
theorem wordAt_last (zeros : List ℕ) (n : ℕ) :
    wordAt (zeros ++ [n / 256, n % 256]) ((zeros ++ [n / 256, n % 256]).length - 2) = n := by
  have hlast : (zeros ++ [n / 256, n % 256]).length - 2 = zeros.length := by
    rw [List.length_append]
    show zeros.length + 2 - 2 = zeros.length
    omega
  rw [hlast, wordAt, List.getD_append_right _ _ _ _ (Nat.le_refl _),
    List.getD_append_right _ _ _ _ (Nat.le_add_right _ 1), Nat.sub_self,
    Nat.add_sub_cancel_left]
  show 256 * (n / 256) + n % 256 = n
  omega

/-- What the descriptor tells. -/
theorem descPart_descriptor {layout : Layout} {value : List ℕ} (h : IsDescriptor layout value) :
    (fileOf [⟨0x82, value⟩]).descPart = (layout.code, layout.recordLength, true) := by
  cases h with
  | @transparent fd rest hfd hrest =>
      have hone : (fd :: rest).length ≥ 1 := Nat.succ_pos _
      have hshort : ¬ (fd :: rest).length ≥ 5 := by
        rw [List.length_cons]
        omega
      show (File.absorb .init ⟨0x82, fd :: rest⟩).descPart = _
      simp only [File.absorb, if_pos hone, if_neg hshort, File.descPart]
      show (fileLayout fd, 0, true) = (0, 0, true)
      rw [fileLayout, hfd]
      rfl
  | @linearFixed fd coding records n hfd =>
      show (fileLayout fd, 256 * (n / 256) + n % 256, true) = (1, n, true)
      rw [fileLayout, hfd, Nat.div_add_mod]
      rfl
  | @cyclic fd coding records n hfd =>
      show (fileLayout fd, 256 * (n / 256) + n % 256, true) = (3, n, true)
      rw [fileLayout, hfd, Nat.div_add_mod]
      rfl

/-- The template tells of its file. -/
theorem Template.fileOf_tlvs :
    fileOf t.tlvs = ⟨file.size, file.id, file.layout.recordLength, file.layout.code, true, true,
      true⟩ := by
  obtain ⟨h80, h83, h82⟩ := t.filter_tlvs
  have hsize : (fileOf t.tlvs).sizePart = (file.size, true) := by
    have htwo : (List.replicate t.leadingZeros 0 ++ [file.size / 256, file.size % 256]).length
        ≥ 2 := by
      rw [List.length_append]
      exact Nat.le_add_left 2 _
    rw [sizePart_fileOf, h80, fileOf, List.foldl_cons, List.foldl_nil]
    simp only [File.absorb, if_true, if_pos htwo, wordAt_last, File.sizePart]
  have hid : (fileOf t.tlvs).idPart = (file.id, true) := by
    rw [idPart_fileOf, h83]
    show (256 * (file.id / 256) + file.id % 256, true) = _
    rw [Nat.div_add_mod]
  have hdesc := descPart_fileOf t.tlvs
  rw [h82, descPart_descriptor t.isDescriptor] at hdesc
  obtain ⟨hsize, hhaveSize⟩ := Prod.ext_iff.1 hsize
  obtain ⟨hid, hhaveId⟩ := Prod.ext_iff.1 hid
  obtain ⟨hlayout, hrest⟩ := Prod.ext_iff.1 hdesc
  obtain ⟨hrecLen, hhaveDesc⟩ := Prod.ext_iff.1 hrest
  cases hfile : fileOf t.tlvs
  rw [hfile] at hsize hhaveSize hid hhaveId hlayout hrecLen hhaveDesc
  cases hsize; cases hhaveSize; cases hid; cases hhaveId; cases hlayout; cases hrecLen
  cases hhaveDesc
  rfl

/-- The older layout of what the template tells. -/
theorem Template.legacy_eq : (fileOf t.tlvs).legacy = getResponse file := by
  have hsize := file.size_lt
  have hid := file.id_lt
  rw [t.fileOf_tlvs]
  simp only [File.legacy, getResponse, Nat.mod_eq_of_lt file.recordLength_lt,
    Nat.mod_eq_of_lt (show file.size / 256 < 256 by omega),
    Nat.mod_eq_of_lt (show file.id / 256 < 256 by omega)]

theorem Layout.code_lt (layout : Layout) : layout.code < 256 := by
  cases layout <;> simp [Layout.code]

/-- The bytes of the response. -/
theorem getResponse_lt (file : ElementaryFile) : ∀ b ∈ getResponse file, b < 256 := by
  have hsize := file.size_lt
  have hid := file.id_lt
  have hrecord := file.recordLength_lt
  have hcode := file.layout.code_lt
  intro b hb
  simp only [getResponse, List.mem_cons, List.not_mem_nil, or_false] at hb
  omega

/-- **The template of a file** is translated to the response for that file. -/
theorem mtkFcpToLegacy_template {gate : Text} (hgate : enabled gate) (malloc : Bool) :
    ∃ text, Spells text (getResponse file) ∧
      mtkFcpToLegacy gate malloc (some t.hex) = some (if malloc then some text else none) := by
  refine ⟨printHex (getResponse file), spells_printHex (getResponse_lt file), ?_⟩
  have hlength := t.spells.length_eq
  have hshort := t.short
  rw [List.length_cons, List.length_cons] at hlength
  have hsize : ¬ (t.hex.length < 4 ∨ t.hex.length % 2 ≠ 0 ∨ t.hex.length > 512) := by omega
  have hbytes := t.spells.hexBytes_eq (Nat.le_refl _)
  rw [List.take_length, List.length_cons, List.length_cons] at hbytes
  have hhalf : t.hex.length / 2 = (t.tlvs.flatMap Tlv.encode).length + 1 + 1 := by omega
  have htranslated := translate_eq t.short (t.tlvs.flatMap Tlv.encode)
  have hcomplete : (fileOf t.tlvs).complete := by
    rw [t.fileOf_tlvs]
    rfl
  rw [List.take_length, Tlv.objects_flatMap, if_pos hcomplete, t.legacy_eq] at htranslated
  rw [mtkFcpToLegacy, if_pos hgate]
  simp only [if_neg hsize, hhalf, hbytes, Option.bind_eq_bind, Option.bind_some, htranslated]
  rfl

end Templates

/-! ## Every translation -/

/-- What is translated is a template whose objects tell of a file. -/
theorem translate_some {buf : List ℕ} {text : Text} (h : translate buf = some (some text)) :
    ∃ len body, buf = 0x62 :: len :: body ∧ len < 0x80 ∧
      (fileOf (Tlv.objects (body.take len))).complete ∧
      text = printHex (fileOf (Tlv.objects (body.take len))).legacy := by
  match buf, h with
  | [], h => exact absurd h (by simp [translate])
  | [b], h =>
      by_cases hb : b ≠ 0x62
      · exact absurd h (by simp [translate, hb])
      · exact absurd h (by simp [translate, not_not.1 hb])
  | b :: len :: body, h =>
      by_cases hb : b ≠ 0x62
      · exact absurd h (by simp [translate, hb])
      obtain rfl := not_not.1 hb
      by_cases hlen : len < 0x80
      · rw [translate_eq hlen, Option.some.injEq] at h
        split at h
        · rename_i hcomplete
          exact ⟨len, body, rfl, hlen, hcomplete, (Option.some.inj h).symm⟩
        · exact absurd h (by simp)
      · have hlong : len ≥ 0x80 := Nat.not_lt.1 hlen
        exact absurd h (by simp [translate, hlong])

/-- A structure is told in a byte. -/
theorem layout_fileOf_lt (tlvs : List Tlv) : (fileOf tlvs).layout < 256 := by
  have hlayout : ∀ b, fileLayout b < 256 := by
    intro b
    unfold fileLayout
    split <;> decide
  have habsorb : ∀ (f : File) (t : Tlv), f.layout < 256 → (f.absorb t).layout < 256 := by
    intro f t hf
    unfold File.absorb
    split_ifs
    · exact hf
    · exact hf
    · exact hf
    · exact hf
    · exact hlayout _
    · exact hlayout _
    · exact hf
    · exact hf
  have hfold : ∀ f : File, f.layout < 256 → (tlvs.foldl File.absorb f).layout < 256 := by
    induction tlvs with
    | nil => exact fun f hf => hf
    | cons t tlvs ih => exact fun f hf => ih _ (habsorb f t hf)
  exact hfold .init (by decide)

theorem legacy_fileOf_lt (tlvs : List Tlv) : ∀ b ∈ (fileOf tlvs).legacy, b < 256 := by
  have hlayout := layout_fileOf_lt tlvs
  intro b hb
  simp only [File.legacy, List.mem_cons, List.not_mem_nil, or_false] at hb
  omega

/-- The characters of what is spelled. -/
theorem Spells.isHexDigit {hex : Text} {bytes : List ℕ} (h : Spells hex bytes) :
    ∀ c ∈ hex, ∃ n, IsHexDigit c n := by
  induction h with
  | nil => simp
  | cons hc hd h ih =>
      rw [List.forall_mem_cons, List.forall_mem_cons]
      exact ⟨⟨_, hc⟩, ⟨_, hd⟩, ih⟩

/-- A string that is translated has bytes that are. -/
theorem mtkFcpToLegacy_some {gate : Text} {malloc : Bool} {ptr : Option Text} {text : Text}
    (h : mtkFcpToLegacy gate malloc ptr = some (some text)) :
    enabled gate ∧ malloc ∧ ∃ hex buf, ptr = some hex ∧ hex.length % 2 = 0 ∧ hex.length ≤ 512 ∧
      hexBytes hex (hex.length / 2) = some (some buf) ∧ translate buf = some (some text) := by
  unfold mtkFcpToLegacy at h
  split at h
  · rename_i hgate
    cases ptr with
    | none => exact absurd h (by simp)
    | some hex =>
        simp only at h
        split at h
        · exact absurd h (by simp)
        · rename_i hsize
          obtain ⟨bytes, hbytes, h⟩ := Option.bind_eq_some_iff.1 h
          cases bytes with
          | none => exact absurd h (by simp)
          | some buf =>
              obtain ⟨legacy, hlegacy, h⟩ := Option.bind_eq_some_iff.1 h
              cases malloc with
              | false => exact absurd h (by simp)
              | true =>
                  obtain rfl : legacy = some text := Option.some.inj h
                  exact ⟨hgate, rfl, hex, buf, rfl, by omega, by omega, hbytes, hlegacy⟩
  · exact absurd h (by simp)

/-- **A translation has thirty digits.** -/
theorem mtkFcpToLegacy_digits {gate : Text} {malloc : Bool} {ptr : Option Text} {text : Text}
    (h : mtkFcpToLegacy gate malloc ptr = some (some text)) :
    text.length = 30 ∧ ∀ c ∈ text, ∃ n, IsHexDigit c n := by
  obtain ⟨-, -, hex, buf, -, -, -, -, htranslated⟩ := mtkFcpToLegacy_some h
  obtain ⟨len, body, -, -, -, rfl⟩ := translate_some htranslated
  have hspells := spells_printHex (legacy_fileOf_lt (Tlv.objects (body.take len)))
  constructor
  · rw [hspells.length_eq]
    rfl
  · exact hspells.isHexDigit

/-! ## Which strings are translated -/

/-- One more byte at the end of what is spelled. -/
theorem Spells.concat {hex : Text} {bytes : List ℕ} (h : Spells hex bytes) {c d : Char}
    {hi lo : ℕ} (hc : IsHexDigit c hi) (hd : IsHexDigit d lo) :
    Spells (hex ++ [c, d]) (bytes ++ [16 * hi + lo]) := by
  induction h with
  | nil => exact .cons hc hd .nil
  | cons hc' hd' h ih => exact .cons hc' hd' ih

/-- A byte that is decoded is spelled. -/
theorem isHexDigit_of_hexByte {hex : Text} {i b : ℕ} (h : hexByte hex i = some (some b)) :
    ∃ c d hi lo, hex[2 * i]? = some c ∧ hex[2 * i + 1]? = some d ∧ IsHexDigit c hi ∧
      IsHexDigit d lo ∧ b = 16 * hi + lo := by
  obtain ⟨c, hc, h⟩ := Option.bind_eq_some_iff.1 h
  obtain ⟨d, hd, h⟩ := Option.bind_eq_some_iff.1 h
  obtain ⟨hi, hhi, h⟩ := Option.bind_eq_some_iff.1 (Option.some.inj h)
  obtain ⟨lo, hlo, h⟩ := Option.bind_eq_some_iff.1 h
  exact ⟨c, d, hi, lo, hc, hd, isHexDigit_of_mtkHexNibble hhi, isHexDigit_of_mtkHexNibble hlo,
    (Option.some.inj h).symm⟩

/-- Bytes that are decoded are spelled. -/
theorem spells_of_hexBytes {hex : Text} {n : ℕ} {buf : List ℕ}
    (h : hexBytes hex n = some (some buf)) : Spells (hex.take (2 * n)) buf := by
  induction n generalizing buf with
  | zero =>
      cases h
      exact .nil
  | succ n ih =>
      obtain ⟨before, hbefore, h⟩ := Option.bind_eq_some_iff.1 h
      cases before with
      | none => exact absurd h (by simp)
      | some before =>
          obtain ⟨byte, hbyte, h⟩ := Option.bind_eq_some_iff.1 h
          cases byte with
          | none => exact absurd h (by simp)
          | some b =>
              obtain ⟨c, d, hi, lo, hc, hd, hchi, hdlo, rfl⟩ := isHexDigit_of_hexByte hbyte
              cases h
              have htake : hex.take (2 * (n + 1)) = hex.take (2 * n) ++ [c, d] := by
                obtain ⟨hlt, hc⟩ := List.getElem?_eq_some_iff.1 hc
                obtain ⟨hlt', hd⟩ := List.getElem?_eq_some_iff.1 hd
                rw [Nat.mul_succ, List.take_succ_eq_append_getElem hlt',
                  List.take_succ_eq_append_getElem hlt, hc, hd, List.append_assoc]
                rfl
              rw [htake]
              exact (ih hbefore).concat hchi hdlo

/-- The objects tell the size, the identifier and the structure of a file. -/
structure TellsFile (tlvs : List Tlv) : Prop where
  size : ∃ t ∈ tlvs, t.tag = 0x80 ∧ t.value.length ≥ 2
  id : ∃ t ∈ tlvs, t.tag = 0x83 ∧ t.value.length = 2
  desc : ∃ t ∈ tlvs, t.tag = 0x82 ∧ t.value.length ≥ 1

/-- What is known of a file after one more object. -/
theorem have_absorb_iff (f : File) (t : Tlv) :
    ((f.absorb t).haveSize ↔ f.haveSize ∨ t.tag = 0x80 ∧ t.value.length ≥ 2) ∧
      ((f.absorb t).haveId ↔ f.haveId ∨ t.tag = 0x83 ∧ t.value.length = 2) ∧
      ((f.absorb t).haveDesc ↔ f.haveDesc ∨ t.tag = 0x82 ∧ t.value.length ≥ 1) := by
  unfold File.absorb
  by_cases h80 : t.tag = 0x80
  · have hid : ¬ (t.tag = 0x83 ∧ t.value.length = 2) := by omega
    have hdesc : ¬ (t.tag = 0x82 ∧ t.value.length ≥ 1) := by omega
    rw [if_pos h80, or_iff_left hid, or_iff_left hdesc]
    by_cases hlen : t.value.length ≥ 2
    · rw [if_pos hlen]
      exact ⟨iff_of_true rfl (.inr ⟨h80, hlen⟩), Iff.rfl, Iff.rfl⟩
    · rw [if_neg hlen, or_iff_left fun h => hlen h.2]
      exact ⟨Iff.rfl, Iff.rfl, Iff.rfl⟩
  · rw [if_neg h80, or_iff_left fun h : t.tag = 0x80 ∧ t.value.length ≥ 2 => h80 h.1]
    by_cases h83 : t.tag = 0x83
    · have hdesc : ¬ (t.tag = 0x82 ∧ t.value.length ≥ 1) := by omega
      rw [if_pos h83, or_iff_left hdesc]
      by_cases hlen : t.value.length = 2
      · rw [if_pos hlen]
        exact ⟨Iff.rfl, iff_of_true rfl (.inr ⟨h83, hlen⟩), Iff.rfl⟩
      · rw [if_neg hlen, or_iff_left fun h => hlen h.2]
        exact ⟨Iff.rfl, Iff.rfl, Iff.rfl⟩
    · rw [if_neg h83, or_iff_left fun h : t.tag = 0x83 ∧ t.value.length = 2 => h83 h.1]
      by_cases hdesc : t.tag = 0x82 ∧ t.value.length ≥ 1
      · rw [if_pos hdesc.1, if_pos hdesc.2]
        split <;> exact ⟨Iff.rfl, Iff.rfl, iff_of_true rfl (.inr hdesc)⟩
      · rw [or_iff_left hdesc]
        by_cases h82 : t.tag = 0x82
        · rw [if_pos h82, if_neg fun hlen => hdesc ⟨h82, hlen⟩]
          exact ⟨Iff.rfl, Iff.rfl, Iff.rfl⟩
        · rw [if_neg h82]
          exact ⟨Iff.rfl, Iff.rfl, Iff.rfl⟩

/-- What is known of a file after some objects. -/
theorem have_foldl_iff (tlvs : List Tlv) (f : File) :
    ((tlvs.foldl File.absorb f).haveSize ↔
        f.haveSize ∨ ∃ t ∈ tlvs, t.tag = 0x80 ∧ t.value.length ≥ 2) ∧
      ((tlvs.foldl File.absorb f).haveId ↔
        f.haveId ∨ ∃ t ∈ tlvs, t.tag = 0x83 ∧ t.value.length = 2) ∧
      ((tlvs.foldl File.absorb f).haveDesc ↔
        f.haveDesc ∨ ∃ t ∈ tlvs, t.tag = 0x82 ∧ t.value.length ≥ 1) := by
  induction tlvs generalizing f with
  | nil => simp
  | cons t tlvs ih =>
      obtain ⟨hsize, hid, hdesc⟩ := ih (f.absorb t)
      rw [List.foldl_cons, hsize, hid, hdesc]
      simp only [List.exists_mem_cons_iff, ← or_assoc]
      obtain ⟨habsorbSize, habsorbId, habsorbDesc⟩ := have_absorb_iff f t
      exact ⟨or_congr_left habsorbSize, or_congr_left habsorbId, or_congr_left habsorbDesc⟩

theorem complete_fileOf_iff (tlvs : List Tlv) : (fileOf tlvs).complete ↔ TellsFile tlvs := by
  obtain ⟨hsize, hid, hdesc⟩ := have_foldl_iff tlvs .init
  unfold File.complete fileOf
  rw [Bool.and_eq_true, Bool.and_eq_true, hsize, hid, hdesc]
  simp only [File.init, Bool.false_eq_true, false_or]
  constructor
  · rintro ⟨⟨h80, h83⟩, h82⟩
    exact ⟨h80, h83, h82⟩
  · rintro ⟨h80, h83, h82⟩
    exact ⟨⟨h80, h83⟩, h82⟩

/-- A string of 512 digits at most that spells a template of short length, whose objects tell of
a file. -/
def IsTemplate (hex : Text) : Prop :=
  hex.length ≤ 512 ∧ ∃ len body, Spells hex (0x62 :: len :: body) ∧ len < 0x80 ∧
    TellsFile (Tlv.objects (body.take len))

/-- **What is translated**: with the gate on and memory, the templates that tell of a file. -/
theorem mtkFcpToLegacy_some_iff (gate : Text) (malloc : Bool) (ptr : Option Text) :
    (∃ text, mtkFcpToLegacy gate malloc ptr = some (some text)) ↔
      enabled gate ∧ malloc ∧ ∃ hex ∈ ptr, IsTemplate hex := by
  constructor
  · rintro ⟨text, h⟩
    obtain ⟨hgate, hmalloc, hex, buf, hptr, heven, hmax, hbytes, htranslated⟩ :=
      mtkFcpToLegacy_some h
    obtain ⟨len, body, rfl, hlen, hcomplete, -⟩ := translate_some htranslated
    have hspells := spells_of_hexBytes hbytes
    rw [Nat.mul_div_cancel' (Nat.dvd_of_mod_eq_zero heven), List.take_length] at hspells
    exact ⟨hgate, hmalloc, hex, hptr, hmax, len, body, hspells, hlen,
      (complete_fileOf_iff _).1 hcomplete⟩
  · rintro ⟨hgate, hmalloc, hex, rfl, hmax, len, body, hspells, hlen, htells⟩
    have hlength := hspells.length_eq
    rw [List.length_cons, List.length_cons] at hlength
    have hsize : ¬ (hex.length < 4 ∨ hex.length % 2 ≠ 0 ∨ hex.length > 512) := by omega
    have hhalf : hex.length / 2 = body.length + 1 + 1 := by omega
    have hbytes := hspells.hexBytes_eq (Nat.le_refl _)
    rw [List.take_length, List.length_cons, List.length_cons] at hbytes
    refine ⟨printHex (fileOf (Tlv.objects (body.take len))).legacy, ?_⟩
    rw [mtkFcpToLegacy, if_pos hgate]
    simp only [if_neg hsize, hhalf, hbytes, Option.bind_eq_bind, Option.bind_some,
      translate_eq hlen, if_pos ((complete_fileOf_iff _).2 htells), hmalloc, if_true]
    rfl

/-- The first digit of what is spelled. -/
theorem Spells.first {c : Char} {hex : Text} {b : ℕ} {bytes : List ℕ}
    (h : Spells (c :: hex) (b :: bytes)) : IsHexDigit c (b / 16) := by
  cases h with
  | @cons c d hi lo hex bytes hc hd h =>
      have hlo := hd.1
      rwa [show (16 * hi + lo) / 16 = hi by omega]

/-- A translation is another string than its template. -/
theorem mtkFcpToLegacy_ne {gate : Text} {malloc : Bool} {hex text : Text}
    (h : mtkFcpToLegacy gate malloc (some hex) = some (some text)) : text ≠ hex := by
  obtain ⟨-, -, hex', buf, hptr, heven, -, hbytes, htranslated⟩ := mtkFcpToLegacy_some h
  cases hptr
  obtain ⟨len, body, rfl, -, -, rfl⟩ := translate_some htranslated
  have hspells := spells_of_hexBytes hbytes
  rw [Nat.mul_div_cancel' (Nat.dvd_of_mod_eq_zero heven), List.take_length] at hspells
  rintro rfl
  -- the template begins with a six, and the translation with a zero
  have hsix : IsHexDigit (hexDigit 0) 6 := hspells.first
  exact absurd hsix (by decide)

/-! ## Main result -/

/-- **FCP templates.**  Whatever the string is, nothing is read outside of it or of its bytes, and
the result is the null pointer or thirty hexadecimal digits; and every template of an elementary
file is translated to the response for that file. -/
theorem fcpTranslation_correct {gate : Text} (hgate : enabled gate) (malloc : Bool) :
    (∀ ptr : Option Text, ∃ legacy, mtkFcpToLegacy gate malloc ptr = some legacy ∧
      ∀ text ∈ legacy, text.length = 30 ∧ ∀ c ∈ text, ∃ n, IsHexDigit c n) ∧
    ∀ (file : ElementaryFile) (t : Template file), ∃ text, Spells text (getResponse file) ∧
      mtkFcpToLegacy gate malloc (some t.hex) = some (if malloc then some text else none) := by
  constructor
  · intro ptr
    obtain ⟨legacy, hlegacy⟩ := mtkFcpToLegacy_total gate malloc ptr
    refine ⟨legacy, hlegacy, ?_⟩
    rintro text rfl
    exact mtkFcpToLegacy_digits hlegacy
  · intro file t
    exact mtkFcpToLegacy_template t hgate malloc

/-- Ten records of 28 bytes. -/
def linearFixedFile : ElementaryFile :=
  ⟨280, 0x6F3C, .linearFixed 28, by decide, by decide, by decide⟩

def linearFixedTemplate : Template linearFixedFile where
  leadingZeros := 0
  descriptor := [0x42, 0x21, 0, 28, 10]
  others := [⟨0x8A, [5]⟩]
  tlvs := [⟨0x82, [0x42, 0x21, 0, 28, 10]⟩, ⟨0x8A, [5]⟩, ⟨0x83, [0x6F, 0x3C]⟩, ⟨0x80, [1, 24]⟩]
  hex := printHex [0x62, 0x12, 0x82, 5, 0x42, 0x21, 0, 28, 10, 0x8A, 1, 5, 0x83, 2, 0x6F, 0x3C,
    0x80, 2, 1, 24]
  isDescriptor := .linearFixed 28 rfl
  others_tag := by decide
  perm := by decide
  short := by decide
  spells := spells_printHex (by decide)

/-- The gate is on, and there is memory. -/
theorem fcpTranslation_correct_linearFixed :
    ∃ text, Spells text (getResponse linearFixedFile) ∧
      mtkFcpToLegacy "1".toList true (some linearFixedTemplate.hex) = some (some text) :=
  (fcpTranslation_correct (by decide) true).2 linearFixedFile linearFixedTemplate

end Radio.Fcp
