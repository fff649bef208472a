import Mathlib.Tactic.Ring
import Topaz.Resource
import Topaz.SignedArithmetic
import Topaz.Vk.RenderPass

/-!
# Topaz.Texture

Texture data, the three ways of making it, and what the two backends read of it when they
upload a texture.

In every format a texel has four bytes for both backends (`Vk.uploadReads_eq`,
`Ogl.uploadReads_eq_iff`).  An image file is loaded with one byte per texel if the format is
`DepthFloat32`, and its size is a product of `int`s; the size of uninitialised data is a
product of 64 bits, which wraps.
-/

namespace Topaz

inductive TextureFormat where
  | rgba32Signed
  | rgba32Unsigned
  | rgba32sRGB
  | depthFloat32
deriving DecidableEq, Repr

/-! ## making texture data -/

structure TextureData where
  width : BitVec 32
  height : BitVec 32
  imageData : List UInt8
deriving DecidableEq, Repr

/-- Why there is no texture data. -/
inductive TextureFault where
  /-- `resize` throws. -/
  | resize
  /-- A product of `int`s overflows. -/
  | overflow
deriving DecidableEq, Repr

/-- An image file, by what `stbi_load` answers for a number of components. -/
structure ImageFile where
  w : Nat
  h : Nat
  imgdata : Nat → List UInt8
  w_lt : w < 2 ^ 31
  h_lt : h < 2 ^ 31
  length_imgdata : ∀ components, (imgdata components).length = w * h * components

/-- `std::vector::resize` of an empty vector, if the allocator grants up to `limit` bytes. -/
def resize (limit n : Nat) : Except TextureFault (List UInt8) :=
  if n ≤ limit then .ok (List.replicate n 0) else .error .resize

def memcpy (dest src : List UInt8) (n : Nat) : List UInt8 := src.take n ++ dest.drop n

/-- A product of `int`s. -/
def intProduct (a b : Int) : Except TextureFault Int :=
  match checked 32 (a * b) with
  | some product => .ok product
  | none => .error .overflow

namespace TextureData

def componentsPerElement : TextureFormat → Nat
  | .rgba32Signed => 4
  | .rgba32Unsigned => 4
  | .rgba32sRGB => 4
  | .depthFloat32 => 1

def fromImageFile (limit : Nat) (image : ImageFile) (format : TextureFormat) :
    Except TextureFault TextureData := do
  let components := componentsPerElement format
  let area ← intProduct image.w image.h
  let imgdataSize ← intProduct area components
  let imageData ← resize limit imgdataSize.toNat
  return {
    width := BitVec.ofNat 32 image.w
    height := BitVec.ofNat 32 image.h
    imageData := memcpy imageData (image.imgdata components) imgdataSize.toNat }

def fromMemory (limit : Nat) (width height : BitVec 32) (imageData : List UInt8) :
    Except TextureFault TextureData := do
  let data ← resize limit imageData.length
  return ⟨width, height, memcpy data imageData imageData.length⟩

def elementSize : TextureFormat → BitVec 64
  | .rgba32Signed => 4
  | .rgba32Unsigned => 4
  | .rgba32sRGB => 4
  | .depthFloat32 => 4

def uninitialised (limit : Nat) (width height : BitVec 32) (format : TextureFormat) :
    Except TextureFault TextureData := do
  let data ← resize limit
    (elementSize format * width.setWidth 64 * height.setWidth 64).toNat
  return ⟨width, height, data⟩

end TextureData

structure TextureResource where
  data : TextureData
  format : TextureFormat
deriving DecidableEq, Repr

namespace TextureResource

def getWidth (resource : TextureResource) : BitVec 32 := resource.data.width

def getHeight (resource : TextureResource) : BitVec 32 := resource.data.height

/-- A texture as a renderer sees it, with `get_resource_bytes`. -/
def toResource (resource : TextureResource) : Resource :=
  ⟨.texture, .staticFixed, resource.data.imageData⟩

end TextureResource

/-! ## uploads -/

namespace Ogl

inductive PixelFormat where
  | rgba
  | depthComponent
deriving DecidableEq, Repr

inductive PixelType where
  | byte
  | unsignedByte
  | float
deriving DecidableEq, Repr

def pixelFormat : TextureFormat → PixelFormat × PixelType
  | .rgba32Signed => (.rgba, .byte)
  | .rgba32Unsigned => (.rgba, .unsignedByte)
  | .rgba32sRGB => (.rgba, .unsignedByte)
  | .depthFloat32 => (.depthComponent, .float)

def PixelFormat.components : PixelFormat → Nat
  | rgba => 4
  | depthComponent => 1

def PixelType.size : PixelType → Nat
  | byte => 1
  | unsignedByte => 1
  | float => 4

/-- The bytes that `glTextureSubImage2D` reads: rows start at multiples of `GL_UNPACK_ALIGNMENT`,
which is 4.  A negative extent is an error, and nothing is read. -/
def textureSubImage2D (width height : Int) (format : PixelFormat) (type : PixelType) : Nat :=
  let row := width.toNat * (format.components * type.size)
  if width ≤ 0 ∨ height ≤ 0 then 0 else (height.toNat - 1) * ((row + 3) / 4 * 4) + row

/-- What the constructor of `RendererOGL` reads of a texture. -/
def uploadReads (resource : TextureResource) : Nat :=
  let (format, type) := pixelFormat resource.format
  let texW := resource.getWidth.toInt
  let texH := resource.getHeight.toInt
  textureSubImage2D texW texH format type

end Ogl

namespace Vk

/-- The format of the image, in `initialise_resources`. -/
def imageFormat : TextureFormat → ImageFormat
  | .rgba32Signed => .rgba32Signed
  | .rgba32Unsigned => .rgba32Unsigned
  | .rgba32sRGB => .rgba32sRGB
  | .depthFloat32 => .depthFloat32

/-- The bytes of a texel. -/
def ImageFormat.texelSize : ImageFormat → Nat
  | undefined => 0
  | rgba32Signed => 4
  | rgba32Unsigned => 4
  | rgba32sRGB => 4
  | bgra32sRGB => 4
  | depthFloat32 => 4

/-- The bytes that `vkCmdCopyBufferToImage` reads in `buffer_copy_image`: the image is tightly
packed, since `bufferRowLength` and `bufferImageHeight` are 0. -/
def bufferCopyImageReads (width height : BitVec 32) (format : ImageFormat) : Nat :=
  width.toNat * height.toNat * format.texelSize

/-- What a Vulkan renderer reads of a texture. -/
def uploadReads (resource : TextureResource) : Nat :=
  bufferCopyImageReads resource.getWidth resource.getHeight (imageFormat resource.format)

end Vk

/-! ## the sizes that are made -/

theorem memcpy_eq_self {dest src : List UInt8} (h : dest.length = src.length) :
    memcpy dest src src.length = src := by
  rw [memcpy, List.take_length, ← h, List.drop_length, List.append_nil]

theorem intProduct_bind {α : Type} (a b : Nat) (f : Int → Except TextureFault α) :
    (intProduct a b >>= f) =
      if a * b < 2 ^ 31 then f ((a * b : Nat) : Int) else .error .overflow := by
  have hchecked : checked 32 ((a : Int) * b) =
      if a * b < 2 ^ 31 then some ((a * b : Nat) : Int) else none := by
    rw [← Nat.cast_mul]
    exact checked_natCast 32 (a * b)
  rw [intProduct, hchecked]
  by_cases h : a * b < 2 ^ 31
  · rw [if_pos h, if_pos h]
    rfl
  · rw [if_neg h, if_neg h]
    rfl

theorem resize_bind {α : Type} (limit n : Nat) (f : List UInt8 → Except TextureFault α) :
    (resize limit n >>= f) = if limit < n then .error .resize else f (List.replicate n 0) := by
  unfold resize
  by_cases h : n ≤ limit
  · rw [if_pos h, if_neg (Nat.not_lt.mpr h)]
    rfl
  · rw [if_neg h, if_pos (Nat.lt_of_not_le h)]
    rfl

namespace TextureData

theorem componentsPerElement_pos (format : TextureFormat) : 0 < componentsPerElement format := by
  cases format <;> decide

theorem componentsPerElement_eq_four_iff (format : TextureFormat) :
    componentsPerElement format = 4 ↔ format ≠ .depthFloat32 := by
  cases format <;> decide

theorem fromImageFile_eq (limit : Nat) (image : ImageFile) (format : TextureFormat) :
    fromImageFile limit image format =
      if image.w * image.h * componentsPerElement format < 2 ^ 31 then
        if limit < image.w * image.h * componentsPerElement format then .error .resize
        else .ok ⟨BitVec.ofNat 32 image.w, BitVec.ofNat 32 image.h,
          image.imgdata (componentsPerElement format)⟩
      else .error .overflow := by
  have hcopy : memcpy (List.replicate (image.w * image.h * componentsPerElement format) 0)
      (image.imgdata (componentsPerElement format))
      (image.w * image.h * componentsPerElement format) =
        image.imgdata (componentsPerElement format) := by
    rw [← image.length_imgdata]
    exact memcpy_eq_self List.length_replicate
  simp only [fromImageFile, intProduct_bind, resize_bind, Int.toNat_natCast, hcopy]
  -- the first product is at most the second
  by_cases hsize : image.w * image.h * componentsPerElement format < 2 ^ 31
  · have harea : image.w * image.h < 2 ^ 31 :=
      Nat.lt_of_le_of_lt (Nat.le_mul_of_pos_right _ (componentsPerElement_pos format)) hsize
    rw [if_pos harea, if_pos hsize, if_pos hsize]
    rfl
  · rw [if_neg hsize, if_neg hsize, ite_self]

theorem fromMemory_eq (limit : Nat) (width height : BitVec 32) (imageData : List UInt8) :
    fromMemory limit width height imageData =
      if limit < imageData.length then .error .resize else .ok ⟨width, height, imageData⟩ := by
  rw [fromMemory, resize_bind, memcpy_eq_self List.length_replicate]
  rfl

theorem toNat_elementSize_mul (width height : BitVec 32) (format : TextureFormat) :
    (elementSize format * width.setWidth 64 * height.setWidth 64).toNat =
      width.toNat * height.toNat * 4 % 2 ^ 64 := by
  have helement : elementSize format = 4 := by cases format <;> rfl
  rw [helement]
  have hword : ∀ x : BitVec 32, (x.setWidth 64).toNat = x.toNat := by
    intro x
    rw [BitVec.toNat_setWidth]
    have hlt := x.isLt
    omega
  rw [BitVec.toNat_mul, BitVec.toNat_mul, hword, hword, Nat.mod_mul_mod, Nat.mul_assoc,
    Nat.mul_comm]
  rfl

theorem uninitialised_eq (limit : Nat) (width height : BitVec 32) (format : TextureFormat) :
    uninitialised limit width height format =
      if limit < width.toNat * height.toNat * 4 % 2 ^ 64 then .error .resize
      else .ok ⟨width, height, List.replicate (width.toNat * height.toNat * 4 % 2 ^ 64) 0⟩ := by
  rw [uninitialised, resize_bind, toNat_elementSize_mul]
  rfl

end TextureData

/-! ## the sizes that are read -/

/-- The extent of a texture that is not empty can be a `GLsizei`. -/
def ExtentFits (w h : Nat) : Prop := w * h = 0 ∨ w < 2 ^ 31 ∧ h < 2 ^ 31

namespace Ogl

/-- Rows of four-byte texels are aligned. -/
theorem textureSubImage2D_eq {format : PixelFormat} {type : PixelType}
    (htexel : format.components * type.size = 4) (width height : Int) :
    textureSubImage2D width height format type = width.toNat * height.toNat * 4 := by
  rw [textureSubImage2D, htexel]
  split
  · next h =>
      rcases h with h | h
      · rw [Int.toNat_of_nonpos h, Nat.zero_mul, Nat.zero_mul]
      · rw [Int.toNat_of_nonpos h, Nat.mul_zero, Nat.zero_mul]
  · next h =>
      obtain ⟨rows, hrows⟩ : ∃ rows, height.toNat = rows + 1 := ⟨height.toNat - 1, by omega⟩
      have haligned : (width.toNat * 4 + 3) / 4 * 4 = width.toNat * 4 := by omega
      rw [hrows, haligned, Nat.add_sub_cancel]
      ring

/-- The conversion to `GLsizei`. -/
theorem toNat_toInt (x : BitVec 32) : x.toInt.toNat = if x.toNat < 2 ^ 31 then x.toNat else 0 := by
  have hlt := x.isLt
  rw [BitVec.toInt_eq_toNat_cond]
  split <;> split <;> omega

theorem uploadReads_eq_iff (resource : TextureResource) :
    uploadReads resource = resource.getWidth.toNat * resource.getHeight.toNat * 4 ↔
      ExtentFits resource.getWidth.toNat resource.getHeight.toNat := by
  have htexel : (pixelFormat resource.format).1.components *
      (pixelFormat resource.format).2.size = 4 := by
    cases resource.format <;> rfl
  have hreads : uploadReads resource =
      textureSubImage2D resource.getWidth.toInt resource.getHeight.toInt
        (pixelFormat resource.format).1 (pixelFormat resource.format).2 := rfl
  rw [hreads, textureSubImage2D_eq htexel, toNat_toInt, toNat_toInt, ExtentFits]
  generalize resource.getWidth.toNat = w, resource.getHeight.toNat = h, 2 ^ 31 = bound
  by_cases hw : w < bound
  · by_cases hh : h < bound
    · simp [hw, hh]
    · simp [hw, hh, eq_comm]
  · simp [hw, eq_comm]

end Ogl

theorem Vk.uploadReads_eq (resource : TextureResource) :
    Vk.uploadReads resource = resource.getWidth.toNat * resource.getHeight.toNat * 4 := by
  have htexel : (Vk.imageFormat resource.format).texelSize = 4 := by
    cases resource.format <;> rfl
  rw [Vk.uploadReads, Vk.bufferCopyImageReads, htexel]

/-- A texture of `w` times `h` texels holds the bytes that both uploads read. -/
structure UploadsExactly (w h : Nat) (resource : TextureResource) : Prop where
  bytes : resource.toResource.bytes.length = w * h * 4
  ogl : Ogl.uploadReads resource = w * h * 4
  vk : Vk.uploadReads resource = w * h * 4

/-- If texture data is made, the texture built from it with this format is uploaded exactly. -/
def MadeExactly (w h : Nat) (format : TextureFormat) (made : Except TextureFault TextureData) :
    Prop :=
  made = .error .resize ∨ ∃ data, made = .ok data ∧ UploadsExactly w h ⟨data, format⟩

theorem uploadsExactly_iff (format : TextureFormat) (data : TextureData) :
    UploadsExactly data.width.toNat data.height.toNat ⟨data, format⟩ ↔
      data.imageData.length = data.width.toNat * data.height.toNat * 4 ∧
      ExtentFits data.width.toNat data.height.toNat := by
  have hogl := Ogl.uploadReads_eq_iff ⟨data, format⟩
  constructor
  · intro h
    exact ⟨h.bytes, hogl.mp h.ogl⟩
  · intro h
    exact ⟨h.1, hogl.mpr h.2, Vk.uploadReads_eq ⟨data, format⟩⟩

/-- Data that is made unless `resize` throws. -/
theorem madeExactly_ite_iff {refused : Prop} [Decidable refused] (w h : Nat)
    (format : TextureFormat) (data : TextureData) :
    MadeExactly w h format (if refused then .error .resize else .ok data) ↔
      refused ∨ UploadsExactly w h ⟨data, format⟩ := by
  unfold MadeExactly
  by_cases hrefused : refused
  · simp [hrefused]
  · simp [hrefused]

/-- The entire image in memory: a texel has four bytes in every format. -/
structure ImageMemory where
  width : BitVec 32
  height : BitVec 32
  imageData : List UInt8
  entire : imageData.length = width.toNat * height.toNat * 4

section Made

variable (limit : Nat) (format : TextureFormat)

theorem fromMemory_madeExactly_iff (memory : ImageMemory) :
    MadeExactly memory.width.toNat memory.height.toNat format
        (TextureData.fromMemory limit memory.width memory.height memory.imageData) ↔
      limit < memory.width.toNat * memory.height.toNat * 4 ∨
      ExtentFits memory.width.toNat memory.height.toNat := by
  rw [TextureData.fromMemory_eq, madeExactly_ite_iff, memory.entire]
  have h := uploadsExactly_iff format ⟨memory.width, memory.height, memory.imageData⟩
  rw [h, and_iff_right memory.entire]

theorem uninitialised_madeExactly_iff (width height : BitVec 32) :
    MadeExactly width.toNat height.toNat format
        (TextureData.uninitialised limit width height format) ↔
      limit < width.toNat * height.toNat * 4 % 2 ^ 64 ∨
      width.toNat * height.toNat * 4 < 2 ^ 64 ∧ ExtentFits width.toNat height.toNat := by
  rw [TextureData.uninitialised_eq, madeExactly_ite_iff]
  have h := uploadsExactly_iff format
    ⟨width, height, List.replicate (width.toNat * height.toNat * 4 % 2 ^ 64) 0⟩
  rw [h, List.length_replicate, Nat.mod_eq_iff_lt (by decide)]

theorem fromImageFile_madeExactly_iff (image : ImageFile) :
    MadeExactly image.w image.h format (TextureData.fromImageFile limit image format) ↔
      image.w * image.h * TextureData.componentsPerElement format < 2 ^ 31 ∧
      (limit < image.w * image.h * TextureData.componentsPerElement format ∨
        format ≠ .depthFloat32 ∨ image.w * image.h = 0) := by
  rw [TextureData.fromImageFile_eq]
  by_cases hsize : image.w * image.h * TextureData.componentsPerElement format < 2 ^ 31
  · rw [if_pos hsize, madeExactly_ite_iff, and_iff_right hsize]
    have hw : (BitVec.ofNat 32 image.w).toNat = image.w :=
      Nat.mod_eq_of_lt (Nat.lt_trans image.w_lt (by decide))
    have hh : (BitVec.ofNat 32 image.h).toNat = image.h :=
      Nat.mod_eq_of_lt (Nat.lt_trans image.h_lt (by decide))
    have hextent : ExtentFits image.w image.h := Or.inr ⟨image.w_lt, image.h_lt⟩
    have h := uploadsExactly_iff format ⟨BitVec.ofNat 32 image.w, BitVec.ofNat 32 image.h,
      image.imgdata (TextureData.componentsPerElement format)⟩
    dsimp only at h
    rw [hw, hh] at h
    rw [h, and_iff_left hextent, image.length_imgdata, mul_eq_mul_left_iff,
      TextureData.componentsPerElement_eq_four_iff]
  · rw [if_neg hsize]
    refine iff_of_false ?_ fun h => hsize h.1
    simp [MadeExactly]

/-- **Texture sizes**: the exact conditions for data of a file, of memory and without values.  A
depth image in a file is too small, and the sizes of large images overflow. -/
theorem texture_data_size_iff :
    (∀ image : ImageFile,
      MadeExactly image.w image.h format (TextureData.fromImageFile limit image format) ↔
        image.w * image.h * TextureData.componentsPerElement format < 2 ^ 31 ∧
        (limit < image.w * image.h * TextureData.componentsPerElement format ∨
          format ≠ .depthFloat32 ∨ image.w * image.h = 0)) ∧
    (∀ memory : ImageMemory,
      MadeExactly memory.width.toNat memory.height.toNat format
          (TextureData.fromMemory limit memory.width memory.height memory.imageData) ↔
        limit < memory.width.toNat * memory.height.toNat * 4 ∨
        ExtentFits memory.width.toNat memory.height.toNat) ∧
    ∀ width height : BitVec 32,
      MadeExactly width.toNat height.toNat format
          (TextureData.uninitialised limit width height format) ↔
        limit < width.toNat * height.toNat * 4 % 2 ^ 64 ∨
        width.toNat * height.toNat * 4 < 2 ^ 64 ∧ ExtentFits width.toNat height.toNat :=
  ⟨fromImageFile_madeExactly_iff limit format, fromMemory_madeExactly_iff limit format,
    uninitialised_madeExactly_iff limit format⟩

end Made

/-- An image file of one texel. -/
def oneTexel : ImageFile where
  w := 1
  h := 1
  imgdata components := List.replicate components 255
  w_lt := by decide
  h_lt := by decide
  length_imgdata components := by simp

/-- A depth texture of one texel from a file holds one byte, and the uploads read four.  A texture
of `2 ^ 31` times `2 ^ 31` texels without values is made with no bytes. -/
theorem texture_data_too_small :
    TextureData.fromImageFile 1000 oneTexel .depthFloat32 = .ok ⟨1, 1, [255]⟩ ∧
    Ogl.uploadReads ⟨⟨1, 1, [255]⟩, .depthFloat32⟩ = 4 ∧
    Vk.uploadReads ⟨⟨1, 1, [255]⟩, .depthFloat32⟩ = 4 ∧
    TextureData.uninitialised 1000 (BitVec.ofNat 32 (2 ^ 31)) (BitVec.ofNat 32 (2 ^ 31))
      .rgba32Unsigned = .ok ⟨BitVec.ofNat 32 (2 ^ 31), BitVec.ofNat 32 (2 ^ 31), []⟩ := by decide

end Topaz
