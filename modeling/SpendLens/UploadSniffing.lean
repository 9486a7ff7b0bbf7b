/-
# What an upload is taken for

The type of an upload is told by its first bytes.  JPEG, PNG and PDF files begin with their
signature; a HEIC file has `ftyp` and its brand behind a length, and a WEBP file is a RIFF
container with `WEBP` behind its length.  The sniffer looks for `WEBP` where the brand of a HEIC
file is, so it takes no WEBP file for one.  Everything else is told apart, a body that begins
like a JPEG and a HEIC file at once excepted.
-/
import SpendLens.ReceiptService

namespace SpendLens

namespace Sniffing

/-! ## Signatures -/

/-- The bytes at an offset. -/
def At (body : List UInt8) (i : ℕ) (bytes : List UInt8) : Prop :=
  (body.drop i).take bytes.length = bytes

def jpegSignature : List UInt8 := [0xff, 0xd8, 0xff]

def pngSignature : List UInt8 := [0x89, 0x50, 0x4e, 0x47, 0x0d, 0x0a, 0x1a, 0x0a]

def pdfSignature : List UInt8 := asciiBytes "%PDF-"

def heicBrands : List (List UInt8) :=
  ["heic", "heix", "hevc", "heim", "heis", "mif1"].map asciiBytes

/-- The length of a box, `ftyp`, and a HEIC brand. -/
def IsHeic (body : List UInt8) : Prop :=
  At body 4 (asciiBytes "ftyp") ∧ ∃ brand ∈ heicBrands, At body 8 brand

/-- `RIFF`, a length, and `WEBP`. -/
def IsWebp (body : List UInt8) : Prop :=
  At body 0 (asciiBytes "RIFF") ∧ At body 8 (asciiBytes "WEBP")

/-- The length of a box, `ftyp`, and `WEBP`, which no file begins with. -/
def HasWebpBrand (body : List UInt8) : Prop :=
  At body 4 (asciiBytes "ftyp") ∧ At body 8 (asciiBytes "WEBP")

/-- The body begins with the standard signature of a type. -/
def HasSignature (mime : String) (body : List UInt8) : Prop :=
  (mime = "image/jpeg" ∧ At body 0 jpegSignature) ∨
    (mime = "image/png" ∧ At body 0 pngSignature) ∨
    (mime = "application/pdf" ∧ At body 0 pdfSignature) ∨
    (mime = "image/webp" ∧ IsWebp body) ∨
    (mime = "image/heic" ∧ IsHeic body)

/-- The exceptions of a body that is rejected. -/
def IsRejection (e : PyExc) : Prop :=
  (∃ msg, e = .unsupportedMediaType msg) ∨ ∃ msg, e = .payloadTooLarge msg

/-- **Sniffing is exact**: the body gets past validation with exactly the type whose signature it
has, if it has an allowed size; no other type has it; and a body that gets past with no type is
rejected before anything is asked of S3 or the database. -/
structure SniffsExactly (body : List UInt8) : Prop where
  accepts : ∀ mime, vetUpload body = .ok mime ↔
    1 ≤ body.length ∧ body.length ≤ maxUploadBytes ∧ HasSignature mime body
  goesOn : ∀ mime, vetUpload body = .ok mime → ∀ env userId externalMessageId,
    createReceipt env userId body externalMessageId =
      persistReceipt env userId body mime externalMessageId
  exclusive : ∀ mime mime', HasSignature mime body → HasSignature mime' body → mime = mime'
  rejects : (∀ mime, vetUpload body ≠ .ok mime) → ∃ e, IsRejection e ∧
    ∀ env userId externalMessageId, createReceipt env userId body externalMessageId = .raise e

/-- The body is no JPEG and HEIC file at once, and a body of an allowed size is a WEBP file exactly
if it has the brand the sniffer looks for and is no JPEG file. -/
structure Unmistakable (body : List UInt8) : Prop where
  single : ¬ (At body 0 jpegSignature ∧ IsHeic body)
  webp : 1 ≤ body.length → body.length ≤ maxUploadBytes →
    (IsWebp body ↔ HasWebpBrand body ∧ ¬ At body 0 jpegSignature)

instance (body : List UInt8) (i : ℕ) (bytes : List UInt8) : Decidable (At body i bytes) :=
  inferInstanceAs (Decidable (_ = _))

instance (body : List UInt8) : Decidable (IsHeic body) := inferInstanceAs (Decidable (_ ∧ _))

instance (body : List UInt8) : Decidable (IsWebp body) := inferInstanceAs (Decidable (_ ∧ _))

instance (body : List UInt8) : Decidable (HasWebpBrand body) := inferInstanceAs (Decidable (_ ∧ _))

/-! ## Fields -/

variable {body : List UInt8}

/-- One byte of a field. -/
theorem At.get {i : ℕ} {bytes : List UInt8} (h : At body i bytes) {k : ℕ} (hk : k < bytes.length) :
    body[i + k]? = bytes[k]? := by
  have hbytes : ((body.drop i).take bytes.length)[k]? = bytes[k]? := by rw [h]
  rw [List.getElem?_take_of_lt hk, List.getElem?_drop] at hbytes
  exact hbytes

/-- A field within the first bytes is read off them. -/
theorem at_take {n i : ℕ} {bytes : List UInt8} (h : i + bytes.length ≤ n) :
    At (body.take n) i bytes ↔ At body i bytes := by
  rw [At, At, List.drop_take, List.take_take, Nat.min_eq_left (by omega)]

theorem isPrefixOf_iff {bytes : List UInt8} : bytes.isPrefixOf body = true ↔ At body 0 bytes := by
  rw [List.isPrefixOf_iff_prefix, List.prefix_iff_eq_take, At, List.drop_zero]
  exact eq_comm

/-- Fields that differ in a byte are not both there. -/
theorem not_at_of_ne {i j k l : ℕ} {xs ys : List UInt8} (hkl : i + k = j + l) (hk : k < xs.length)
    (hl : l < ys.length) (hne : xs[k]? ≠ ys[l]?) (hx : At body i xs) : ¬ At body j ys := by
  intro hy
  apply hne
  rw [← hx.get hk, ← hy.get hl, hkl]

theorem le_length_of_at {i : ℕ} {bytes : List UInt8} (hne : bytes ≠ []) (h : At body i bytes) :
    i + bytes.length ≤ body.length := by
  have hlen := congrArg List.length h
  rw [List.length_take, List.length_drop] at hlen
  have hpos := List.length_pos_of_ne_nil hne
  omega

/-! ## The sniffer -/

/-- Four bytes at an offset, compared with one of some texts of four characters. -/
theorem mem_iff_at {i : ℕ} {fields : List (List UInt8)} (hfour : ∀ f ∈ fields, f.length = 4) :
    (body.drop i).take 4 ∈ fields ↔ ∃ f ∈ fields, At body i f := by
  constructor
  · intro h
    exact ⟨_, h, by rw [At, hfour _ h]⟩
  · rintro ⟨f, hf, hat⟩
    rw [At, hfour f hf] at hat
    rw [hat]
    exact hf

theorem heicBrands_length : ∀ f ∈ heicBrands, f.length = 4 := forall_mem_of_all (by decide)

/-- The branch of the containers. -/
theorem sniff_container (data : List UInt8) :
    (if isoBmffHeaderLen ≤ data.length && (data.drop 4).take 4 = asciiBytes "ftyp" then
      let brand := (data.drop 8).take 4
      if brand ∈ heicBrands then some "image/heic"
      else if brand ∈ ["WEBP"].map asciiBytes then some "image/webp"
      else none
    else none) =
      if IsHeic data then some "image/heic"
      else if HasWebpBrand data then some "image/webp"
      else none := by
  have hftyp : (data.drop 4).take 4 = asciiBytes "ftyp" ↔ At data 4 (asciiBytes "ftyp") := Iff.rfl
  have hbrand : (data.drop 8).take 4 ∈ heicBrands ↔ ∃ brand ∈ heicBrands, At data 8 brand :=
    mem_iff_at heicBrands_length
  have hwebp : (data.drop 8).take 4 ∈ ["WEBP"].map asciiBytes ↔ At data 8 (asciiBytes "WEBP") := by
    rw [List.map_singleton, List.mem_singleton]
    exact Iff.rfl
  have hlength : ∀ brand : List UInt8, brand.length = 4 → At data 8 brand →
      isoBmffHeaderLen ≤ data.length := by
    intro brand hfour hat
    have hne : brand ≠ [] := by
      rintro rfl
      cases hfour
    have := le_length_of_at hne hat
    rw [isoBmffHeaderLen]
    omega
  simp only [hftyp, hbrand, hwebp, Bool.and_eq_true, decide_eq_true_eq]
  by_cases hheic : IsHeic data
  · obtain ⟨hbox, brand, hmem, hat⟩ := hheic
    rw [if_pos ⟨hlength brand (heicBrands_length brand hmem) hat, hbox⟩, if_pos ⟨brand, hmem, hat⟩,
      if_pos ⟨hbox, brand, hmem, hat⟩]
  · rw [if_neg hheic]
    by_cases hbox : At data 4 (asciiBytes "ftyp")
    · have hother : ¬ ∃ brand ∈ heicBrands, At data 8 brand := fun h => hheic ⟨hbox, h⟩
      by_cases hat : At data 8 (asciiBytes "WEBP")
      · rw [if_pos ⟨hlength _ rfl hat, hbox⟩, if_neg hother, if_pos hat, if_pos ⟨hbox, hat⟩]
      · have hnone : ¬ HasWebpBrand data := fun h => hat h.2
        rw [if_neg hother, if_neg hat, if_neg hnone, ite_self]
    · have hnone : ¬ HasWebpBrand data := fun h => hbox h.1
      rw [if_neg (fun h => hbox h.2), if_neg hnone]

/-- The sniffer looks at the first 32 bytes, and no field ends behind them. -/
theorem isHeic_take : IsHeic (body.take 32) ↔ IsHeic body := by
  refine and_congr (at_take (by decide)) (exists_congr fun brand => and_congr_right fun hmem => ?_)
  exact at_take (by rw [heicBrands_length brand hmem]; decide)

theorem hasWebpBrand_take : HasWebpBrand (body.take 32) ↔ HasWebpBrand body :=
  and_congr (at_take (by decide)) (at_take (by decide))

/-- **What the sniffer says**, by the fields of the body. -/
theorem sniffMime_eq (body : List UInt8) :
    sniffMime (body.take 32) =
      if At body 0 jpegSignature then some "image/jpeg"
      else if At body 0 pngSignature then some "image/png"
      else if At body 0 pdfSignature then some "application/pdf"
      else if IsHeic body then some "image/heic"
      else if HasWebpBrand body then some "image/webp"
      else none := by
  have hrule : ∀ bytes : List UInt8, bytes.length ≤ 32 →
      bytes.isPrefixOf (body.take 32) = decide (At body 0 bytes) := by
    intro bytes hlen
    rw [Bool.eq_iff_iff, isPrefixOf_iff, at_take (by omega), decide_eq_true_iff]
  have hmagic : magicRules = [(jpegSignature, "image/jpeg"), (pngSignature, "image/png"),
      (pdfSignature, "application/pdf")] := rfl
  rw [sniffMime, hmagic]
  simp only [List.find?_cons, List.find?_nil, hrule jpegSignature (by decide),
    hrule pngSignature (by decide), hrule pdfSignature (by decide)]
  by_cases hj : At body 0 jpegSignature
  · simp only [hj, decide_true, if_true]
  · by_cases hp : At body 0 pngSignature
    · simp only [hj, hp, decide_true, decide_false, if_true, if_false]
    · by_cases hd : At body 0 pdfSignature
      · simp only [hj, hp, hd, decide_true, decide_false, if_true, if_false]
      · simp only [hj, hp, hd, decide_false, if_false]
        refine (sniff_container (body.take 32)).trans ?_
        simp only [isHeic_take, hasWebpBrand_take]

/-! ## Exclusion -/

theorem not_png_of_jpeg (h : At body 0 jpegSignature) : ¬ At body 0 pngSignature :=
  not_at_of_ne (k := 0) (l := 0) rfl (by decide) (by decide) (by decide) h

theorem not_pdf_of_jpeg (h : At body 0 jpegSignature) : ¬ At body 0 pdfSignature :=
  not_at_of_ne (k := 0) (l := 0) rfl (by decide) (by decide) (by decide) h

theorem not_pdf_of_png (h : At body 0 pngSignature) : ¬ At body 0 pdfSignature :=
  not_at_of_ne (k := 0) (l := 0) rfl (by decide) (by decide) (by decide) h

/-- A RIFF container begins like none of the others. -/
theorem not_signature_of_isWebp (h : IsWebp body) :
    ¬ At body 0 jpegSignature ∧ ¬ At body 0 pngSignature ∧ ¬ At body 0 pdfSignature :=
  ⟨not_at_of_ne (k := 0) (l := 0) rfl (by decide) (by decide) (by decide) h.1,
    not_at_of_ne (k := 0) (l := 0) rfl (by decide) (by decide) (by decide) h.1,
    not_at_of_ne (k := 0) (l := 0) rfl (by decide) (by decide) (by decide) h.1⟩

/-- A box of type `ftyp` is neither a PNG nor a PDF file. -/
theorem not_signature_of_ftyp (h : At body 4 (asciiBytes "ftyp")) :
    ¬ At body 0 pngSignature ∧ ¬ At body 0 pdfSignature :=
  ⟨not_at_of_ne (k := 0) (l := 4) rfl (by decide) (by decide) (by decide) h,
    not_at_of_ne (k := 0) (l := 4) rfl (by decide) (by decide) (by decide) h⟩

/-- `WEBP` is no brand of HEIC. -/
theorem not_isHeic_of_webp (h : At body 8 (asciiBytes "WEBP")) : ¬ IsHeic body := by
  rintro ⟨-, brand, hmem, hat⟩
  have hdiffer : ∀ brand ∈ heicBrands, (asciiBytes "WEBP")[0]? ≠ brand[0]? :=
    forall_mem_of_all (by decide)
  have hpos : 0 < brand.length := by
    rw [heicBrands_length brand hmem]
    decide
  exact not_at_of_ne (k := 0) (l := 0) rfl (by decide) hpos (hdiffer brand hmem) h hat

/-! ## What is accepted -/

/-- **What the sniffer accepts**: every signature, with a brand for the box of a WEBP file. -/
theorem sniffMime_iff (hsingle : ¬ (At body 0 jpegSignature ∧ IsHeic body)) {mime : String} :
    sniffMime (body.take 32) = some mime ↔
      (mime = "image/jpeg" ∧ At body 0 jpegSignature) ∨
        (mime = "image/png" ∧ At body 0 pngSignature) ∨
        (mime = "application/pdf" ∧ At body 0 pdfSignature) ∨
        (mime = "image/webp" ∧ HasWebpBrand body ∧ ¬ At body 0 jpegSignature) ∨
        (mime = "image/heic" ∧ IsHeic body) := by
  rw [sniffMime_eq]
  by_cases hj : At body 0 jpegSignature
  · have hheic : ¬ IsHeic body := fun h => hsingle ⟨hj, h⟩
    simp only [hj, hheic, not_png_of_jpeg hj, not_pdf_of_jpeg hj, if_true, Option.some.injEq,
      and_true, and_false, not_true_eq_false, or_false]
    exact eq_comm
  · by_cases hp : At body 0 pngSignature
    · have hbox : ¬ At body 4 (asciiBytes "ftyp") := fun h => (not_signature_of_ftyp h).1 hp
      have hheic : ¬ IsHeic body := fun h => hbox h.1
      have hwebp : ¬ HasWebpBrand body := fun h => hbox h.1
      simp only [hj, hp, hheic, hwebp, not_pdf_of_png hp, if_true, if_false, Option.some.injEq,
        and_true, and_false, false_and, or_false, false_or]
      exact eq_comm
    · by_cases hd : At body 0 pdfSignature
      · have hbox : ¬ At body 4 (asciiBytes "ftyp") := fun h => (not_signature_of_ftyp h).2 hd
        have hheic : ¬ IsHeic body := fun h => hbox h.1
        have hwebp : ¬ HasWebpBrand body := fun h => hbox h.1
        simp only [hj, hp, hd, hheic, hwebp, if_true, if_false, Option.some.injEq, and_true,
          and_false, false_and, or_false, false_or]
        exact eq_comm
      · by_cases hheic : IsHeic body
        · have hwebp : ¬ HasWebpBrand body := fun h => not_isHeic_of_webp h.2 hheic
          simp only [hj, hp, hd, hheic, hwebp, if_true, if_false, Option.some.injEq, and_true,
            and_false, false_and, false_or]
          exact eq_comm
        · by_cases hwebp : HasWebpBrand body
          · simp only [hj, hp, hd, hheic, hwebp, if_true, if_false, Option.some.injEq, and_true,
              and_false, or_false, false_or, not_false_eq_true]
            exact eq_comm
          · simp only [hj, hp, hd, hheic, hwebp, if_false, and_false, false_and, or_false,
              reduceCtorEq]

/-- What validation lets past. -/
theorem vetUpload_eq_ok {mime : String} :
    vetUpload body = .ok mime ↔
      1 ≤ body.length ∧ body.length ≤ maxUploadBytes ∧ sniffMime (body.take 32) = some mime := by
  unfold vetUpload
  split
  · rename_i hlong
    exact iff_of_false (fun h => by cases h) (fun h => by omega)
  · rename_i hlong
    split
    · rename_i hempty
      rw [List.isEmpty_iff] at hempty
      subst hempty
      exact iff_of_false (fun h => by cases h) (fun h => absurd h.1 (by decide))
    · rename_i hempty
      have hpos : 1 ≤ body.length := by
        rw [List.isEmpty_iff, ← ne_eq] at hempty
        exact List.length_pos_of_ne_nil hempty
      rw [and_iff_right hpos, and_iff_right (by omega)]
      cases sniffMime (body.take 32) with
      | none => exact iff_of_false (fun h => by cases h) (fun h => by cases h)
      | some m => rw [Except.ok.injEq, Option.some.injEq]

/-- What validation does not let past is rejected. -/
theorem isRejection_of_vetUpload {e : PyExc} (h : vetUpload body = .error e) : IsRejection e := by
  unfold vetUpload at h
  split at h
  · cases h
    exact Or.inr ⟨_, rfl⟩
  · split at h
    · cases h
      exact Or.inl ⟨_, rfl⟩
    · split at h
      · cases h
        exact Or.inl ⟨_, rfl⟩
      · cases h

/-- The one type a signature can be of. -/
def typeOf (body : List UInt8) : String :=
  if At body 0 jpegSignature then "image/jpeg"
  else if At body 0 pngSignature then "image/png"
  else if At body 0 pdfSignature then "application/pdf"
  else if IsWebp body then "image/webp"
  else "image/heic"

theorem eq_typeOf (hsingle : ¬ (At body 0 jpegSignature ∧ IsHeic body)) {mime : String}
    (h : HasSignature mime body) : mime = typeOf body := by
  unfold typeOf
  rcases h with ⟨rfl, hj⟩ | ⟨rfl, hp⟩ | ⟨rfl, hd⟩ | ⟨rfl, hw⟩ | ⟨rfl, hh⟩
  · rw [if_pos hj]
  · rw [if_neg (fun hj => not_png_of_jpeg hj hp), if_pos hp]
  · rw [if_neg (fun hj => not_pdf_of_jpeg hj hd), if_neg (fun hp => not_pdf_of_png hp hd), if_pos hd]
  · obtain ⟨hj, hp, hd⟩ := not_signature_of_isWebp hw
    rw [if_neg hj, if_neg hp, if_neg hd, if_pos hw]
  · obtain ⟨hp, hd⟩ := not_signature_of_ftyp hh.1
    have hj : ¬ At body 0 jpegSignature := fun hj => hsingle ⟨hj, hh⟩
    have hw : ¬ IsWebp body := fun hw => not_isHeic_of_webp hw.2 hh
    rw [if_neg hj, if_neg hp, if_neg hd, if_neg hw]

/-- A body of an allowed size and with a WEBP brand. -/
theorem vetUpload_webp_iff (hsingle : ¬ (At body 0 jpegSignature ∧ IsHeic body))
    (hpos : 1 ≤ body.length) (hmax : body.length ≤ maxUploadBytes) :
    vetUpload body = .ok "image/webp" ↔ HasWebpBrand body ∧ ¬ At body 0 jpegSignature := by
  have hjpeg : "image/webp" ≠ "image/jpeg" := by decide
  have hpng : "image/webp" ≠ "image/png" := by decide
  have hpdf : "image/webp" ≠ "application/pdf" := by decide
  have hheic : "image/webp" ≠ "image/heic" := by decide
  rw [vetUpload_eq_ok, and_iff_right hpos, and_iff_right hmax, sniffMime_iff hsingle]
  simp only [hjpeg, hpng, hpdf, hheic, false_and, false_or, or_false, true_and]

theorem hasSignature_webp_iff : HasSignature "image/webp" body ↔ IsWebp body := by
  have hjpeg : "image/webp" ≠ "image/jpeg" := by decide
  have hpng : "image/webp" ≠ "image/png" := by decide
  have hpdf : "image/webp" ≠ "application/pdf" := by decide
  have hheic : "image/webp" ≠ "image/heic" := by decide
  simp only [HasSignature, hjpeg, hpng, hpdf, hheic, false_and, false_or, or_false, true_and]

/-- **Upload sniffing is exact on the unmistakable bodies**, and on no others. -/
theorem sniffsExactly_iff (body : List UInt8) : SniffsExactly body ↔ Unmistakable body := by
  constructor
  · intro h
    have hsingle : ¬ (At body 0 jpegSignature ∧ IsHeic body) := by
      rintro ⟨hj, hh⟩
      have hsame := h.exclusive "image/jpeg" "image/heic" (Or.inl ⟨rfl, hj⟩)
        (Or.inr (Or.inr (Or.inr (Or.inr ⟨rfl, hh⟩))))
      exact absurd hsame (by decide)
    refine ⟨hsingle, fun hpos hmax => ?_⟩
    rw [← vetUpload_webp_iff hsingle hpos hmax, h.accepts, and_iff_right hpos, and_iff_right hmax,
      hasSignature_webp_iff]
  · rintro ⟨hsingle, hwebp⟩
    refine ⟨fun mime => ?_, ?_, ?_, ?_⟩
    · rw [vetUpload_eq_ok, sniffMime_iff hsingle]
      refine and_congr_right fun hpos => and_congr_right fun hmax => ?_
      rw [HasSignature, hwebp hpos hmax]
    · exact fun mime hok env userId mid => (createReceipt_of_vet_ok env userId mid hok).2
    · intro mime mime' h h'
      rw [eq_typeOf hsingle h, eq_typeOf hsingle h']
    · intro hnone
      cases hvet : vetUpload body with
      | ok mime => exact absurd hvet (hnone mime)
      | error e =>
          exact ⟨e, isRejection_of_vetUpload hvet, fun env userId mid => createReceipt_of_vet_error hvet⟩

/-- The first bytes of a WEBP file. -/
def sampleWebp : List UInt8 :=
  asciiBytes "RIFF" ++ [0x1a, 0, 0, 0] ++ asciiBytes "WEBPVP8 "

/-- A WEBP file is rejected. -/
theorem not_sniffsExactly_of_webp : ¬ SniffsExactly sampleWebp := by
  intro h
  have hok : vetUpload sampleWebp = .ok "image/webp" :=
    (h.accepts "image/webp").2
      ⟨by decide, by decide, Or.inr (Or.inr (Or.inr (Or.inl ⟨rfl, by decide⟩)))⟩
  have hrejected : vetUpload sampleWebp = .error (.unsupportedMediaType "unknown magic bytes") := by
    decide
  rw [hrejected] at hok
  cases hok

end Sniffing

end SpendLens
