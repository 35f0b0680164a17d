/-
# Recording frames (`CameraDevice.cpp`)

`yv12ToI420InPlace` rewrites a YV12 frame (Y, then Cr, then Cb) as packed I420 (Y, Cb, Cr).  It
tells from the size of the frame whether the rows are packed or aligned to 16, copies the chroma
planes aside in their new order, moves the rows of the luma plane together, and puts the chroma
planes behind them.

* `yv12ToI420InPlace` : the code, with checked accesses and sizes of 32 bits;
* `i420` : the image of a frame;
* `rewrite_spec` : what the copies do to a frame of the size of its layout;
* `correct_iff` : every frame is converted or left as it is, unless a size wraps.
-/
import Ct07.Lib.Plane

open CheckedMemory Plane

namespace Camera.Yv12

/-! ## Model -/

/-- `size_t` has 32 bits. -/
def word (n : ℕ) : ℕ := n % 4294967296

/-- `(n + 15) & ~15` -/
def align16 (n : ℕ) : ℕ := word (n + 15) / 16 * 16

/-- The strides of luma and chroma that the size of the frame tells. -/
def strides (size width height : ℕ) : Option (ℕ × ℕ) :=
  let chromaWidth := width / 2
  let chromaHeight := height / 2
  if size ≠ word (width * height + 2 * chromaWidth * chromaHeight) then
    let yStride := align16 width
    let cStride := align16 (yStride / 2)
    if size ≠ word (yStride * height + 2 * cStride * chromaHeight) then none
    else some (yStride, cStride)
  else some (width, chromaWidth)

/-- `chroma.resize(n)` -/
def resize (chroma : List UInt8) (n : ℕ) : List UInt8 :=
  chroma.take n ++ List.replicate (n - chroma.length) 0

/-- The copies of one row of each chroma plane. -/
def copyRow (frame : List UInt8) (cr cb cStride chromaWidth chromaHeight : ℕ)
    (chroma : List UInt8) (row : ℕ) : Except Fault (List UInt8) := do
  let cbRow ← slice frame (word (cb + row * cStride)) chromaWidth
  let chroma ← overwrite chroma (word (row * chromaWidth)) cbRow
  let crRow ← slice frame (word (cr + row * cStride)) chromaWidth
  overwrite chroma (word ((chromaHeight + row) * chromaWidth)) crRow

/-- `memmove(frame + row * width, frame + row * yStride, width)` -/
def moveRow (yStride width : ℕ) (frame : List UInt8) (row : ℕ) : Except Fault (List UInt8) := do
  let bytes ← slice frame (word (row * yStride)) width
  overwrite frame (word (row * width)) bytes

/-- The loop over the rows of luma from the second one on. -/
def moveRows (yStride width height : ℕ) (frame : List UInt8) : Except Fault (List UInt8) :=
  if yStride ≠ width then
    (List.range' 1 (height - 1)).foldlM (moveRow yStride width) frame
  else .ok frame

/-- The copies of a frame with the strides. -/
def rewrite (chroma frame : List UInt8) (yStride cStride width height : ℕ) :
    Except Fault (List UInt8) := do
  let chromaWidth := width / 2
  let chromaHeight := height / 2
  let chroma := resize chroma (word (2 * chromaWidth * chromaHeight))
  let cr := yStride * height
  let cb := cr + cStride * chromaHeight
  let chroma ← (List.range' 0 chromaHeight).foldlM
    (copyRow frame cr cb cStride chromaWidth chromaHeight) chroma
  let frame ← moveRows yStride width height frame
  overwrite frame (word (width * height)) chroma

/-- `yv12ToI420InPlace`: its result, and the frame afterwards.  `chroma` is what the vector of the
thread holds from an earlier call. -/
def yv12ToI420InPlace (chroma frame : List UInt8) (width height : ℕ) :
    Except Fault (Bool × List UInt8) :=
  match strides frame.length width height with
  | none => .ok (false, frame)
  | some (yStride, cStride) => do
    let frame ← rewrite chroma frame yStride cStride width height
    return (true, frame)

/-! ## Layouts -/

/-- A size of images: both sides are positive and even, and fit a `size_t`. -/
structure Geometry where
  width : ℕ
  height : ℕ
  width_pos : 0 < width
  height_pos : 0 < height
  width_even : width % 2 = 0
  height_even : height % 2 = 0
  width_lt : width < 4294967296

/-- A multiple of 16. -/
def align (n : ℕ) : ℕ := (n + 15) / 16 * 16

/-- The size of a packed frame. -/
def packedSize (width height : ℕ) : ℕ := width * height + 2 * (width / 2) * (height / 2)

/-- The size of a frame in the YV12 format of Android. -/
def alignedSize (width height : ℕ) : ℕ :=
  align width * height + 2 * align (align width / 2) * (height / 2)

/-- The packed I420 image of a YV12 frame. -/
def i420 (frame : List UInt8) (yStride cStride width height : ℕ) : List UInt8 :=
  let cr := yStride * height
  let cb := cr + cStride * (height / 2)
  rows frame 0 yStride width height ++ (rows frame cb cStride (width / 2) (height / 2) ++
    rows frame cr cStride (width / 2) (height / 2))

/-- The frame begins with its packed image afterwards. -/
def Converted (chroma frame : List UInt8) (yStride cStride width height : ℕ) : Prop :=
  ∃ frame', yv12ToI420InPlace chroma frame width height = .ok (true, frame') ∧
    frame'.length = frame.length ∧
    frame'.take (width * height * 3 / 2) = i420 frame yStride cStride width height

/-- A frame of one of the two sizes is converted, and any other is left as it is. -/
structure Correct (chroma frame : List UInt8) (width height : ℕ) : Prop where
  packed : frame.length = packedSize width height →
    Converted chroma frame width (width / 2) width height
  aligned : frame.length = alignedSize width height →
    Converted chroma frame (align width) (align (align width / 2)) width height
  other : frame.length ≠ packedSize width height → frame.length ≠ alignedSize width height →
    yv12ToI420InPlace chroma frame width height = .ok (false, frame)

/-! ## The copies -/

theorem word_eq {n : ℕ} (h : n < 4294967296) : word n = n := Nat.mod_eq_of_lt h

theorem length_resize (chroma : List UInt8) (n : ℕ) : (resize chroma n).length = n := by
  rw [resize, List.length_append, List.length_take, List.length_replicate]
  omega

section Chroma

variable (frame : List UInt8) (cr cb cStride cw ch : ℕ)

/-- The chroma planes aside when `k` rows of each are copied: Cb in the first half, Cr in the
second. -/
def Copied (k : ℕ) (chroma : List UInt8) : Prop :=
  ∃ X Y, chroma = rows frame cb cStride cw k ++ (X ++ (rows frame cr cStride cw k ++ Y)) ∧
    X.length = (ch - k) * cw ∧ Y.length = (ch - k) * cw

variable {frame cr cb cStride cw ch}

theorem copied_zero {chroma : List UInt8} (hlen : chroma.length = 2 * cw * ch) :
    Copied frame cr cb cStride cw ch 0 chroma := by
  have hhalf : 2 * cw * ch = ch * cw + ch * cw := by
    rw [Nat.mul_assoc, Nat.two_mul, Nat.mul_comm cw ch]
  refine ⟨chroma.take (ch * cw), chroma.drop (ch * cw), ?_, ?_, ?_⟩
  · rw [rows_zero, rows_zero, List.nil_append, List.nil_append, List.take_append_drop]
  · rw [List.length_take, hlen, hhalf, Nat.sub_zero]
    omega
  · rw [List.length_drop, hlen, hhalf, Nat.sub_zero]
    omega

theorem copied_all {chroma : List UInt8} (h : Copied frame cr cb cStride cw ch ch chroma) :
    chroma = rows frame cb cStride cw ch ++ rows frame cr cStride cw ch := by
  obtain ⟨X, Y, rfl, hX, hY⟩ := h
  rw [Nat.sub_self, Nat.zero_mul] at hX hY
  rw [List.eq_nil_of_length_eq_zero hX, List.eq_nil_of_length_eq_zero hY, List.nil_append,
    List.append_nil]

/-- The two halves and their parts have room for one more row. -/
theorem chroma_lengths (cw k m : ℕ) :
    (k + 1 + m - k) * cw = cw + m * cw ∧ (k + 1 + m - (k + 1)) * cw = m * cw ∧
      2 * cw * (k + 1 + m) = 2 * (k * cw) + 2 * cw + 2 * (m * cw) ∧
      (k + 1 + m + k) * cw = 2 * (k * cw) + cw + m * cw := by
  refine ⟨?_, ?_, ?_, ?_⟩
  · rw [show k + 1 + m - k = 1 + m by omega, Nat.add_mul, Nat.one_mul]
  · rw [show k + 1 + m - (k + 1) = m by omega]
  · rw [Nat.mul_assoc, Nat.mul_comm cw, Nat.add_mul, Nat.add_mul, Nat.one_mul]
    omega
  · rw [Nat.add_mul, Nat.add_mul, Nat.add_mul, Nat.one_mul]
    omega

/-- **One row of each chroma plane** is copied behind the rows before it. -/
theorem copyRow_spec (hpos : 0 < cw) (hcrlen : ∀ r < ch, cr + r * cStride + cw ≤ frame.length)
    (hcblen : ∀ r < ch, cb + r * cStride + cw ≤ frame.length)
    (hsize : frame.length < 4294967296) (hchroma : 2 * cw * ch < 4294967296) {k : ℕ} (hk : k < ch)
    {chroma : List UInt8} (h : Copied frame cr cb cStride cw ch k chroma) :
    ∃ chroma', copyRow frame cr cb cStride cw ch chroma k = .ok chroma' ∧
      Copied frame cr cb cStride cw ch (k + 1) chroma' := by
  obtain ⟨X, Y, rfl, hX, hY⟩ := h
  obtain ⟨m, rfl⟩ : ∃ m, ch = k + 1 + m := ⟨ch - (k + 1), by omega⟩
  obtain ⟨hrest, hnext, hwide, hsecond⟩ := chroma_lengths cw k m
  rw [hrest] at hX hY
  have hcbrow := hcblen k hk
  have hcrrow := hcrlen k hk
  have hkcb : (rows frame cb cStride cw k).length = k * cw :=
    length_rows fun r hr => hcblen r (by omega)
  have hkcr : (rows frame cr cStride cw k).length = k * cw :=
    length_rows fun r hr => hcrlen r (by omega)
  have hkcb' : (rows frame cb cStride cw (k + 1)).length = k * cw + cw := by
    rw [length_rows fun r hr => hcblen r (by omega), Nat.succ_mul]
  -- the first row left over of each half is overwritten
  have hfirst := overwrite_row [] (rows frame cr cStride cw k ++ Y) hcbrow
    (show cw ≤ X.length by omega) (by rw [List.nil_append, hkcb])
  have hlast := overwrite_row (rows frame cb cStride cw (k + 1) ++ X.drop cw) [] hcrrow
    (show cw ≤ Y.length by omega) (show (k + 1 + m + k) * cw = _ by
      rw [List.length_append, List.length_append, hkcb', hkcr, List.length_drop, hX, hsecond]
      omega)
  rw [List.nil_append, List.nil_append] at hfirst
  rw [List.append_nil, List.append_nil, List.append_assoc, List.append_assoc] at hlast
  refine ⟨_, ?_, X.drop cw, Y.drop cw, rfl, ?_, ?_⟩
  · rw [copyRow, word_eq (by omega), word_eq (by omega), word_eq (by omega), word_eq (by omega),
      slice_eq hcbrow, ok_bind, hfirst, ok_bind, slice_eq hcrrow, ok_bind, hlast]
  · rw [List.length_drop, hX, hnext]
    omega
  · rw [List.length_drop, hY, hnext]
    omega

/-- The chroma planes after the copies: Cb, then Cr. -/
theorem copyRows_spec (hpos : 0 < cw) (hcrlen : ∀ r < ch, cr + r * cStride + cw ≤ frame.length)
    (hcblen : ∀ r < ch, cb + r * cStride + cw ≤ frame.length)
    (hsize : frame.length < 4294967296) (hchroma : 2 * cw * ch < 4294967296)
    {chroma : List UInt8} (hlen : chroma.length = 2 * cw * ch) :
    (List.range' 0 ch).foldlM (copyRow frame cr cb cStride cw ch) chroma =
      .ok (rows frame cb cStride cw ch ++ rows frame cr cStride cw ch) := by
  obtain ⟨chroma', hloop, hall⟩ := foldlM_range'_inv (Copied frame cr cb cStride cw ch) ch 0 chroma
    (fun k c _ hk hc =>
      copyRow_spec hpos hcrlen hcblen hsize hchroma (by omega) hc) (copied_zero hlen)
  rw [Nat.zero_add] at hall
  rw [hloop, copied_all hall]

end Chroma

/-! ## Luma -/

/-- The rows of luma are moved together; what is behind them stays. -/
theorem moveRows_spec {frame : List UInt8} {yStride width height : ℕ} (hheight : 0 < height)
    (hle : width ≤ yStride) (hin : ∀ r < height, r * yStride + width ≤ frame.length)
    (hsize : frame.length < 4294967296) :
    moveRows yStride width height frame =
      .ok (rows frame 0 yStride width height ++ frame.drop (height * width)) := by
  by_cases hpacked : yStride = width
  · subst hpacked
    rw [moveRows, if_neg (by simp), rows_packed, List.drop_zero, List.take_append_drop]
  · have hstep : ∀ k m, 1 ≤ k → k < 1 + (height - 1) →
        m = rows frame 0 yStride width k ++ frame.drop (k * width) →
          ∃ m', moveRow yStride width m k = .ok m' ∧
            m' = rows frame 0 yStride width (k + 1) ++ frame.drop ((k + 1) * width) := by
      rintro k m - hk rfl
      have hrow := hin k (by omega)
      have hmul : k * width ≤ k * yStride := Nat.mul_le_mul_left k hle
      have hlen : (rows frame 0 yStride width k).length = k * width :=
        length_rows fun r hr => by
          rw [Nat.zero_add]
          exact hin r (by omega)
      refine ⟨_, ?_, rfl⟩
      rw [moveRow, word_eq (by omega), word_eq (by omega), slice_moved hle hrow hlen, ok_bind,
        overwrite_moved hrow (by omega) hlen]
    have hstart : frame = rows frame 0 yStride width 1 ++ frame.drop (1 * width) := by
      rw [rows_succ, rows_zero, List.nil_append, Nat.zero_mul, Nat.zero_add, List.drop_zero,
        Nat.one_mul, List.take_append_drop]
    obtain ⟨m, hloop, rfl⟩ := foldlM_range'_inv
      (fun k m => m = rows frame 0 yStride width k ++ frame.drop (k * width)) (height - 1) 1 frame
      hstep hstart
    rw [moveRows, if_pos hpacked, hloop, show 1 + (height - 1) = height by omega]

/-! ## A frame -/

section Frame

variable {g : Geometry} {frame : List UInt8}

theorem Geometry.halves (g : Geometry) :
    ∃ cw ch, g.width = 2 * cw ∧ g.height = 2 * ch ∧ g.width / 2 = cw ∧ g.height / 2 = ch ∧
      0 < cw ∧ 0 < ch := by
  have := g.width_pos
  have := g.height_pos
  have := g.width_even
  have := g.height_even
  exact ⟨g.width / 2, g.height / 2, by omega, by omega, rfl, rfl, by omega, by omega⟩

/-- Three halves of a byte for each pixel. -/
theorem packedSize_eq (g : Geometry) :
    packedSize g.width g.height = g.width * g.height * 3 / 2 := by
  obtain ⟨cw, ch, hw, hh, hcw, hch, -, -⟩ := g.halves
  have hmul : 2 * cw * (2 * ch) = 4 * (cw * ch) := by
    rw [Nat.mul_mul_mul_comm]
  rw [packedSize, hcw, hch, hw, hh, hmul, Nat.mul_assoc 2 cw ch]
  omega

/-- The three planes are inside of a frame of the size of its layout. -/
theorem planes_fit {yStride cStride width height cw ch : ℕ} (hy : width ≤ yStride)
    (hc : cw ≤ cStride) (hlen : frame.length = yStride * height + 2 * cStride * ch) :
    (∀ r < height, 0 + r * yStride + width ≤ frame.length) ∧
      (∀ r < ch, yStride * height + r * cStride + cw ≤ frame.length) ∧
      ∀ r < ch, yStride * height + cStride * ch + r * cStride + cw ≤ frame.length := by
  have hplanes : 2 * cStride * ch = ch * cStride + ch * cStride := by
    rw [Nat.mul_assoc, Nat.two_mul, Nat.mul_comm cStride ch]
  have hluma : height * yStride = yStride * height := Nat.mul_comm _ _
  have hchroma : ch * cStride = cStride * ch := Nat.mul_comm _ _
  refine ⟨fun r hr => ?_, fun r hr => ?_, fun r hr => ?_⟩
  · have := row_fits hr hy
    omega
  · have := row_fits hr hc
    omega
  · have := row_fits hr hc
    omega

/-- The packed planes have the size of a packed frame. -/
theorem length_i420 {yStride cStride width height : ℕ} (hy : width ≤ yStride)
    (hc : width / 2 ≤ cStride)
    (hlen : frame.length = yStride * height + 2 * cStride * (height / 2)) :
    (i420 frame yStride cStride width height).length = packedSize width height := by
  obtain ⟨hluma, hcr, hcb⟩ := planes_fit hy hc hlen
  rw [i420, List.length_append, List.length_append, length_rows hluma, length_rows hcb,
    length_rows hcr, packedSize, Nat.mul_comm height, Nat.mul_assoc 2, Nat.two_mul,
    Nat.mul_comm (height / 2)]

/-- A packed frame is no larger than any other. -/
theorem packedSize_le {yStride cStride width : ℕ} (height : ℕ) (hy : width ≤ yStride)
    (hc : width / 2 ≤ cStride) :
    packedSize width height ≤ yStride * height + 2 * cStride * (height / 2) :=
  Nat.add_le_add (Nat.mul_le_mul_right height hy)
    (Nat.mul_le_mul_right (height / 2) (Nat.mul_le_mul_left 2 hc))

/-- **The copies** leave the packed image at the front of a frame of the size of its layout. -/
theorem rewrite_spec {yStride cStride : ℕ} (hy : g.width ≤ yStride) (hc : g.width / 2 ≤ cStride)
    (hlen : frame.length = yStride * g.height + 2 * cStride * (g.height / 2))
    (hsize : frame.length < 4294967296) (chroma : List UInt8) :
    rewrite chroma frame yStride cStride g.width g.height =
      .ok (i420 frame yStride cStride g.width g.height ++
        frame.drop (packedSize g.width g.height)) := by
  obtain ⟨hluma, hcr, hcb⟩ := planes_fit hy hc hlen
  have hpacked := packedSize_le g.height hy hc
  have himage := length_i420 hy hc hlen
  rw [← hlen] at hpacked
  have hcw : 0 < g.width / 2 := by
    have := g.width_pos
    have := g.width_even
    omega
  have hcomm : g.height * g.width = g.width * g.height := Nat.mul_comm _ _
  have hsum : packedSize g.width g.height =
      g.width * g.height + 2 * (g.width / 2) * (g.height / 2) := rfl
  have hylen : (rows frame 0 yStride g.width g.height).length = g.width * g.height := by
    rw [length_rows hluma, hcomm]
  have hcopied := copyRows_spec hcw hcr hcb hsize (by omega)
    (length_resize chroma (2 * (g.width / 2) * (g.height / 2)))
  have hmoved := moveRows_spec g.height_pos hy (fun r hr => by
    rw [← Nat.zero_add (r * yStride)]
    exact hluma r hr) hsize
  rw [i420, List.length_append, hylen] at himage
  have hrest : frame.drop (g.height * g.width) =
      (frame.drop (g.height * g.width)).take (2 * (g.width / 2) * (g.height / 2)) ++
        frame.drop (packedSize g.width g.height) := by
    rw [hsum, ← hcomm, ← List.drop_drop, List.take_append_drop]
  rw [rewrite]
  show (do
    let chroma ← (List.range' 0 (g.height / 2)).foldlM
      (copyRow frame (yStride * g.height) (yStride * g.height + cStride * (g.height / 2)) cStride
        (g.width / 2) (g.height / 2)) (resize chroma (word (2 * (g.width / 2) * (g.height / 2))))
    let frame ← moveRows yStride g.width g.height frame
    overwrite frame (word (g.width * g.height)) chroma) = _
  have hput := @overwrite_append _ _
    ((frame.drop (g.height * g.width)).take (2 * (g.width / 2) * (g.height / 2)))
    (frame.drop (packedSize g.width g.height))
    (rows frame (yStride * g.height + cStride * (g.height / 2)) cStride (g.width / 2)
      (g.height / 2) ++ rows frame (yStride * g.height) cStride (g.width / 2) (g.height / 2)) _
    hylen.symm (by
      rw [List.length_take, List.length_drop]
      omega)
  rw [word_eq (by omega), word_eq (by omega), hcopied, ok_bind, hmoved, ok_bind, hrest, hput]
  simp only [i420, List.append_assoc]

/-- What `yv12ToI420InPlace` does with the strides of a layout. -/
theorem converted_of_strides {yStride cStride : ℕ}
    (hstrides : strides frame.length g.width g.height = some (yStride, cStride))
    (hy : g.width ≤ yStride) (hc : g.width / 2 ≤ cStride)
    (hlen : frame.length = yStride * g.height + 2 * cStride * (g.height / 2))
    (hsize : frame.length < 4294967296) (chroma : List UInt8) :
    Converted chroma frame yStride cStride g.width g.height := by
  have himage := length_i420 hy hc hlen
  have hpacked := packedSize_le g.height hy hc
  rw [← hlen] at hpacked
  refine ⟨i420 frame yStride cStride g.width g.height ++
    frame.drop (packedSize g.width g.height), ?_, ?_, ?_⟩
  · rw [yv12ToI420InPlace, hstrides]
    show (do
      let frame ← rewrite chroma frame yStride cStride g.width g.height
      return (true, frame)) = _
    rw [rewrite_spec hy hc hlen hsize, ok_bind]
    rfl
  · rw [List.length_append, himage, List.length_drop]
    exact Nat.add_sub_of_le hpacked
  · rw [← packedSize_eq, ← himage, List.take_left]

/-- With strides the frame is not refused. -/
theorem not_refused {p : ℕ × ℕ} {width height : ℕ}
    (hstrides : strides frame.length width height = some p) (chroma : List UInt8) :
    yv12ToI420InPlace chroma frame width height ≠ .ok (false, frame) := by
  intro h
  rw [yv12ToI420InPlace, hstrides] at h
  obtain ⟨frame', -, hreturn⟩ := bind_eq_ok_iff.1 h
  exact nomatch hreturn

end Frame

/-! ## The two sizes -/

section Sizes

variable (g : Geometry)

theorem le_align (n : ℕ) : n ≤ align n := by
  rw [align]
  omega

theorem align_le (n : ℕ) : align n ≤ n + 15 := by
  rw [align]
  omega

theorem align16_of_lt {n : ℕ} (h : n + 15 < 4294967296) : align16 n = align n := by
  rw [align16, word_eq h, align]

theorem alignedSize_le {size : ℕ} (h : size = alignedSize g.width g.height) :
    packedSize g.width g.height ≤ size :=
  h ▸ packedSize_le _ (le_align _) (Nat.le_trans (Nat.div_le_div_right (le_align _)) (le_align _))

/-- The size that the code computes for an aligned frame. -/
theorem word_alignedSize :
    word (align16 g.width * g.height + 2 * align16 (align16 g.width / 2) * (g.height / 2)) =
      word (alignedSize g.width g.height) := by
  have hwidth := g.width_lt
  by_cases hwrap : g.width + 15 < 4294967296
  · have hle := align_le g.width
    rw [align16_of_lt hwrap, align16_of_lt (n := align g.width / 2) (by omega), alignedSize]
  · -- the sum wraps, and so does the size
    have houter : align16 g.width = 0 := by
      rw [align16, word]
      omega
    have htrue : align g.width = 4294967296 := by
      rw [align]
      omega
    have hinner : align16 (0 / 2) = 0 := by decide
    have htrue' : align (4294967296 / 2) = 2147483648 := by decide
    rw [houter, hinner, alignedSize, htrue, htrue', word, word]
    omega

theorem strides_packed {size : ℕ} (h : size = word (packedSize g.width g.height)) :
    strides size g.width g.height = some (g.width, g.width / 2) := by
  rw [strides]
  show (if size ≠ word (packedSize g.width g.height) then _ else _) = _
  rw [if_neg (not_not.2 h)]

theorem strides_aligned (size : ℕ) (hpacked : size ≠ word (packedSize g.width g.height))
    (h : size = word (alignedSize g.width g.height)) :
    strides size g.width g.height =
      some (align16 g.width, align16 (align16 g.width / 2)) := by
  rw [← word_alignedSize] at h
  rw [strides]
  show (if size ≠ word (packedSize g.width g.height) then _ else _) = _
  rw [if_pos hpacked]
  show (if size ≠ word _ then _ else _) = _
  rw [if_neg (not_not.2 h)]

theorem strides_none {size : ℕ} (hpacked : size ≠ word (packedSize g.width g.height))
    (h : size ≠ word (alignedSize g.width g.height)) :
    strides size g.width g.height = none := by
  rw [← word_alignedSize] at h
  rw [strides]
  show (if size ≠ word (packedSize g.width g.height) then _ else _) = _
  rw [if_pos hpacked]
  show (if size ≠ word _ then _ else _) = _
  rw [if_pos h]

/-- An aligned frame of a size that fits a word has strides that fit, too. -/
theorem align16_eq (h : alignedSize g.width g.height < 4294967296) :
    align16 g.width = align g.width ∧
      align16 (align16 g.width / 2) = align (align g.width / 2) := by
  have hheight := g.height_pos
  have heven := g.height_even
  have hluma : align g.width * 2 ≤ align g.width * g.height := Nat.mul_le_mul_left _ (by omega)
  have hle := le_align g.width
  rw [alignedSize] at h
  have houter : align16 g.width = align g.width := align16_of_lt (by omega)
  exact ⟨houter, by rw [houter, align16_of_lt (by omega)]⟩

/-- The sizes tell the layouts apart: they are equal only when the strides are. -/
theorem strides_eq_of_size_eq (h : alignedSize g.width g.height = packedSize g.width g.height) :
    align g.width = g.width ∧ align (align g.width / 2) = g.width / 2 := by
  have hchroma : g.width / 2 ≤ align (align g.width / 2) :=
    Nat.le_trans (Nat.div_le_div_right (le_align _)) (le_align _)
  have hhalf : 0 < g.height / 2 := by
    have := g.height_pos
    have := g.height_even
    omega
  have hle := Nat.mul_le_mul_right g.height (le_align g.width)
  have hle' := Nat.mul_le_mul_right (g.height / 2) (Nat.mul_le_mul_left 2 hchroma)
  rw [alignedSize, packedSize] at h
  constructor
  · apply Nat.eq_of_mul_eq_mul_right g.height_pos
    omega
  · have hdouble : 2 * align (align g.width / 2) = 2 * (g.width / 2) := by
      apply Nat.eq_of_mul_eq_mul_right hhalf
      omega
    omega

end Sizes

/-! ## Main result -/

/-- **A frame is converted or left as it is, exactly when its size is not that of a layout by
wrapping only.** -/
theorem correct_iff (g : Geometry) (chroma frame : List UInt8)
    (hsize : frame.length < 4294967296) :
    Correct chroma frame g.width g.height ↔
      (frame.length = packedSize g.width g.height % 4294967296 ∨
          frame.length = alignedSize g.width g.height % 4294967296 →
        frame.length = packedSize g.width g.height ∨
          frame.length = alignedSize g.width g.height) := by
  constructor
  · intro hcorrect hwrapped
    by_contra hneither
    obtain ⟨hpacked, haligned⟩ := not_or.1 hneither
    have hrefused := hcorrect.other hpacked haligned
    by_cases hfirst : frame.length = word (packedSize g.width g.height)
    · exact not_refused (strides_packed g hfirst) chroma hrefused
    · exact not_refused (strides_aligned g _ hfirst (hwrapped.resolve_left hfirst)) chroma hrefused
  · intro hexact
    have hpackedCase : frame.length = packedSize g.width g.height →
        Converted chroma frame g.width (g.width / 2) g.width g.height := by
      intro hlen
      apply converted_of_strides (strides_packed g ?_) (Nat.le_refl _) (Nat.le_refl _) hlen hsize
      rw [word_eq (hlen ▸ hsize), hlen]
    refine ⟨hpackedCase, fun hlen => ?_, fun hpacked haligned => ?_⟩
    · by_cases hsame : frame.length = packedSize g.width g.height
      · obtain ⟨hy, hc⟩ := strides_eq_of_size_eq g (hlen.symm.trans hsame)
        rw [hc, hy]
        exact hpackedCase hsame
      · have hbound := alignedSize_le g hlen
        have hfits : alignedSize g.width g.height < 4294967296 := hlen ▸ hsize
        obtain ⟨hy, hc⟩ := align16_eq g hfits
        have hstrides := strides_aligned g frame.length
          (by rwa [word_eq (by omega)]) (by rw [word_eq hfits, hlen])
        rw [hc, hy] at hstrides
        exact converted_of_strides hstrides (le_align _)
          (Nat.le_trans (Nat.div_le_div_right (le_align _)) (le_align _)) hlen hsize chroma
    · have hneither := fun h => (hexact h).elim hpacked haligned
      rw [yv12ToI420InPlace, strides_none g (fun h => hneither (.inl h))
        fun h => hneither (.inr h)]

/-- A packed frame of two pixels by two. -/
theorem correct_iff_small :
    Correct [] [0, 1, 2, 3, 4, 5] 2 2 ↔
      ([0, 1, 2, 3, 4, 5].length = packedSize 2 2 % 4294967296 ∨
          [0, 1, 2, 3, 4, 5].length = alignedSize 2 2 % 4294967296 →
        [0, 1, 2, 3, 4, 5].length = packedSize 2 2 ∨
          [0, 1, 2, 3, 4, 5].length = alignedSize 2 2) :=
  correct_iff ⟨2, 2, by decide, by decide, by decide, by decide, by decide⟩ []
    [0, 1, 2, 3, 4, 5] (by decide)

/-- A frame of two bytes passes for one of more than four thousand million. -/
theorem wrappedSize_not_correct : ¬ Correct [] [0, 1] 2 1431655766 := by
  intro h
  exact @not_refused [0, 1] (2, 1) 2 1431655766 (by decide) []
    (h.other (by decide) (by decide))

end Camera.Yv12
