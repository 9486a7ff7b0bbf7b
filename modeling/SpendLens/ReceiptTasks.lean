/-
# The two worker tasks

`processReceipt` reads a receipt's blob and turns it into structured fields,
`categoriseReceipt` turns those into an expense.  Both are written as the bodies
`_run` of the source; what Celery makes of an exception is left to its retries.

The regular expressions that read the text of a receipt are a parameter: whatever
they find, the tasks take the same steps.
-/
import SpendLens.Categorisation
import SpendLens.ReceiptService
import SpendLens.Lib.Base64
import SpendLens.Lib.JsonText

namespace SpendLens

/-! ## What is read off a receipt -/

/-- `ParsedReceipt`; the line items are always empty. -/
structure ParsedReceipt where
  merchant : Option String
  total : Option Decimal
  transactionDate : Option Date

/-- `to_jsonable`. -/
def ParsedReceipt.toJsonable (p : ParsedReceipt) : Json :=
  .obj [("merchant", p.merchant.elim .null .str),
    ("total", p.total.elim .null (fun d => .str d.str)),
    ("transaction_date", p.transactionDate.elim .null (fun d => .str d.isoformat)),
    ("line_items", .arr [])]

/-- What the tasks read texts with. -/
structure Readers where
  /-- `parse_receipt_text`. -/
  parseReceiptText : String → ParsedReceipt
  /-- The text of an exception a library has raised. -/
  libraryText : PyExc → String

/-- `str` of an exception. -/
def Readers.str (readers : Readers) : PyExc → String
  | .pipelineError msg => msg
  | .pdfRasterError msg => msg
  | .valueError msg => msg
  | e => readers.libraryText e

/-- `strptime(text, "%Y-%m-%d").date()`; `none` is its `ValueError`. -/
def strptimeDate (U : Unicode) (s : String) : Option Date := do
  let asciiNumber := fun (cs : List Char) => cs.foldl (fun n c => n * 10 + (c.toNat - 48)) 0
  let year ← (s.toList.take 4).mapM U.decimal
  let rest := s.toList.drop 4
  let month := (rest.drop 1).takeWhile (fun c => c ≠ '-')
  let day := (rest.drop 1).dropWhile (fun c => c ≠ '-')
  let n := asciiNumber month
  if year.length = 4 && rest.head? = some '-' && day.head? = some '-' &&
      (month.length = 1 || month.length = 2) && month.all Char.isDigit && 1 ≤ n && n ≤ 12 then do
    let d ← match day.drop 1 with
      | [c] => if '1' ≤ c && c ≤ '9' then some (asciiNumber [c]) else none
      | [a, c] =>
          if a = ' ' || a = '0' then if '1' ≤ c && c ≤ '9' then some (asciiNumber [c]) else none
          else if a = '1' || a = '2' then (U.decimal c).map (fun v => asciiNumber [a] * 10 + v)
          else if a = '3' && (c = '0' || c = '1') then some (asciiNumber [a, c])
          else none
      | _ => none
    Date.of? (year.foldl (fun m v => m * 10 + v) 0) n d
  else none

example : strptimeDate Unicode.ascii "2026-4-01" = Date.of? 2026 4 1 := by decide

/-- `round(x, 2)` in hundredths: to the nearest, ties to even. -/
def roundHundredths (x : ℚ) : ℤ :=
  let n := ⌊x * 100⌋
  let part := x * 100 - n
  if part < 1 / 2 then n else if 1 / 2 < part then n + 1 else if n % 2 = 0 then n else n + 1

/-! ## The vision model -/

def visionPrompt : String :=
  "You are a receipt data extractor. Look at the attached receipt " ++
    "image and return ONLY a JSON object with these keys:\n" ++
    "  - merchant: string or null\n" ++
    "  - total: string of the form '12.34' (the final amount due) or null\n" ++
    "  - transaction_date: ISO-8601 date 'YYYY-MM-DD' or null\n" ++
    "Use null for any field you genuinely cannot read. " ++
    "Do not include any other keys. Do not wrap in prose."

/-- `_to_data_url`. -/
def toDataUrl (imageBytes : List UInt8) (mime : String) : String :=
  "data:" ++ mime ++ ";base64," ++ String.ofList (Base64.encode imageBytes)

/-- `_to_optional_str`. -/
def toOptionalStr : Option Json → Option String
  | some (.str s) => if strip s = "" then none else some (strip s)
  | _ => none

/-- Coerce the model's answer; an answer that is no object has no `get`. -/
def payloadToParsedReceipt (U : Unicode) : Json → Except PyExc ParsedReceipt
  | .obj kvs => .ok
      { merchant := toOptionalStr ((Json.obj kvs).get? "merchant")
        total := (((Json.obj kvs).get? "total").bind Json.str?).bind (Decimal.parse? U)
        transactionDate :=
          (((Json.obj kvs).get? "transaction_date").bind Json.str?).bind (strptimeDate U) }
  | _ => .error .attributeError

/-- Ask the vision model; `none` is no opinion. -/
def extractWithVision (env : Env) (imageBytes : List UInt8) (imageMime model : String) :
    Service (Option ParsedReceipt) :=
  if env.settings.openaiApiKey.any (fun key => !key.isEmpty) then
    .call (.ext (.chatCompletion model visionPrompt
        ["Extract the fields.", toDataUrl imageBytes imageMime])) (fun r =>
      match r with
      | .error .openAIError => .ret none
      | .error e => .raise e
      | .ok content =>
          match Json.loads env.jsonDepth (content.getD "").toList with
          | .error .malformed => .ret none
          | .error .tooManyDigits =>
              .raise (.valueError "Exceeds the limit (4300 digits) for integer string conversion")
          | .error .tooDeep => .raise .recursionError
          | .ok payload =>
              match payloadToParsedReceipt env.unicode payload with
              | .error e => .raise e
              | .ok parsed => .ret (some parsed))
  else .ret none

/-! ## OCR and parsing -/

/-- A program whose exception is kept as a value. -/
def attempt {α : Type} (p : Service α) : Service (Except PyExc α) :=
  tryCatch (do
    let a ← p
    return .ok a) (fun e => return .error e)

/-- `rasterise_first_page`, with its errors made those of the pipeline. -/
def rasteriseFirstPage (readers : Readers) (body : List UInt8) : Service Image := do
  let fail := fun (msg : String) => PyExc.pipelineError ("Could not rasterise PDF: " ++ msg)
  match ← attempt (Prog.perform (Op.ext (.convertFromBytes body))) with
  | .error e => throw (fail ("pdf2image failed: " ++ readers.str e))
  | .ok [] => throw (fail "PDF had no rasterisable pages")
  | .ok (image :: _) =>
      if image.mode = "RGB" then return image
      else Prog.perform (Op.ext (.imageConvert image "RGB"))

/-- `load_image`, with its errors made those of the pipeline. -/
def loadImage (readers : Readers) (body : List UInt8) : Service Image :=
  tryCatch (do
    let src ← Prog.perform (Op.ext (.imageOpen body))
    Prog.perform (Op.ext (.imageConvert src "RGB")))
    (fun e => throw (.pipelineError ("Could not decode image: " ++ readers.str e)))

/-- The image of a receipt, and what the vision model would be given. -/
def decodeBlob (readers : Readers) (receipt : Receipt) (body : List UInt8) :
    Service (Image × List UInt8 × String) :=
  if receipt.mimeType = "application/pdf" then do
    let img ← rasteriseFirstPage readers body
    let jpeg ← Prog.perform (Op.ext (.imageSave img "JPEG"))
    return (img, jpeg, "image/jpeg")
  else do
    let img ← loadImage readers body
    return (img, body, receipt.mimeType)

/-- Download a receipt and recognise its text. -/
def readImage (readers : Readers) (receipt : Receipt) :
    Service (OcrResult × List UInt8 × String) := do
  let body ← Prog.perform (Op.getObject receipt.storageKey)
  let (img, bytes, mime) ← decodeBlob readers receipt body
  let gray ← Prog.perform (Op.ext (.imageConvert img "L"))
  let ocr ← Prog.perform (Op.ext (.runTesseract gray))
  return (ocr, bytes, mime)

/-- The fields of a receipt, by the vision model where the text is poor. -/
def readFields (env : Env) (readers : Readers) (ocr : OcrResult) (bytes : List UInt8)
    (mime : String) : Service (ParsedReceipt × OcrMethod) :=
  if ocr.meanConfidence < env.settings.ocrConfidenceThreshold &&
      env.settings.openaiApiKey.any (fun key => !key.isEmpty) then do
    match ← extractWithVision env bytes mime env.settings.openaiModelVision with
    | some parsed => return (parsed, .gpt4v)
    | none => return (readers.parseReceiptText ocr.text, .tesseract)
  else return (readers.parseReceiptText ocr.text, .tesseract)

/-- `_ocr_and_parse`: the assignments it has made to the receipt, and how it ended. -/
def ocrAndParse (env : Env) (readers : Readers) (receipt : Receipt) :
    Service (List ReceiptColumn × Except PyExc Unit) := do
  match ← attempt (readImage readers receipt) with
  | .error e => return ([], .error e)
  | .ok (ocr, bytes, mime) =>
      let read := [.rawText ocr.text, .ocrConfidence (roundHundredths ocr.meanConfidence)]
      match ← attempt (readFields env readers ocr bytes mime) with
      | .error e => return (read, .error e)
      | .ok (parsed, method) =>
          return (read ++ [.parsedPayload parsed.toJsonable, .ocrMethod method, .status .parsed,
            .errorMessage none], .ok ())

/-! ## Processing -/

/-- `_enqueue_categorisation`. -/
def enqueueCategorisation (env : Env) (receiptId : UUID) : Service Unit :=
  if env.settings.environment = "test" then .ret ()
  else Prog.perform (Op.delay (.categoriseReceipt receiptId))

/-- Flush the assignments to a loaded receipt and commit. -/
def saveColumns (receipt : Receipt) (cols : List ReceiptColumn) : Service Unit := do
  flushColumns ReceiptColumn.changes (fun cs => sql (.updateReceipt receipt.id cs)) receipt cols
  commit

/-- The failure arms: mark the receipt failed, and re-raise unless the bytes are to blame. -/
def markFailed (readers : Readers) (receipt : Receipt) (cols : List ReceiptColumn) (e : PyExc) :
    Service Unit := do
  saveColumns receipt
    (cols ++ [.status .failed, .errorMessage (some (String.ofList ((readers.str e).toList.take 500)))])
  match e with
  | .pipelineError _ => return ()
  | e => throw e

/-- The body of the task once the receipt is `processing`. -/
def runPipeline (env : Env) (readers : Readers) (receipt : Receipt) : Service Unit := do
  match ← ocrAndParse env readers receipt with
  | (cols, .error e) => markFailed readers receipt cols e
  | (cols, .ok ()) => do
      match ← attempt (saveColumns receipt cols) with
      -- the rollback has discarded the assignments
      | .error e => markFailed readers receipt [] e
      | .ok () => do
          match ← attempt (enqueueCategorisation env receipt.id) with
          | .error e => markFailed readers { receipt with status := .parsed, errorMessage := none } [] e
          | .ok () => return ()

/-- `process_receipt._run`. -/
def processReceipt (env : Env) (readers : Readers) (receiptId : UUID) : Service Unit := do
  let rows ← sql (.selectReceipts [] (fun r => r.id = receiptId))
  match ← scalarOneOrNone rows with
  | none => return ()
  | some receipt => do
      saveColumns receipt [.status .processing]
      runPipeline env readers { receipt with status := .processing }

/-! ## Categorising -/

/-- `Decimal` of the stored total; the pipeline writes a text or `null`. -/
def coerceTotal (U : Unicode) : Option Json → Except PyExc Decimal
  | some (.str s) => .ok (if s = "" then .ofCents 0 else (Decimal.parse? U s).getD (.ofCents 0))
  | some (.int n) => .ok (if n = 0 then .ofCents 0 else .fin (n < 0) n.natAbs 0)
  | some (.bool true) => .ok (.fin false 1 0)
  | some (.arr (_ :: _)) => .error (.valueError "argument must be a sequence of length 3")
  | _ => .ok (.ofCents 0)

/-- `_coerce_payload`: the merchant is any true value. -/
def coercePayload (env : Env) (payload : Json) : Service (Json × Decimal × Date) :=
  let merchant := ((payload.get? "merchant").filter Json.truthy).getD (.str "Unknown")
  match coerceTotal env.unicode (payload.get? "total") with
  | .error e => throw e
  | .ok amount =>
      match (((payload.get? "transaction_date").filter Json.truthy).bind Json.str?).bind
          Date.fromisoformat with
      | some d => return (merchant, amount, d)
      | none => do
          let d ← Prog.perform Op.today
          return (merchant, amount, d)

/-- `categorise_merchant` on a merchant of the payload; only a text has `strip`. -/
def categoriseJson (env : Env) (userId : UUID) : Json → Service (String × ExpenseCategory)
  | .str s => do
      let category ← categoriseMerchant env userId (some s)
      return (s, category)
  | _ => throw .attributeError

/-- The expense of a receipt. -/
def receiptExpense (id : UUID) (receipt : Receipt) (merchant : String) (amount : Decimal)
    (category : ExpenseCategory) (expenseDate : Date) : NewExpense where
  id := id
  userId := receipt.userId
  merchantName := merchant
  amount := amount
  currency := "USD"
  category := category
  expenseDate := expenseDate
  description := none
  receiptId := some receipt.id
  source := .receipt

/-- Insert the expense and mark the receipt, in one transaction. -/
def insertReceiptExpense (receipt : Receipt) (merchant : String) (amount : Decimal)
    (category : ExpenseCategory) (expenseDate : Date) : Service Unit := do
  sql (.updateReceipt receipt.id [.status .categorised])
  let id ← uuid4
  sql (.insertExpense (receiptExpense id receipt merchant amount category expenseDate))
  commit

/-- `categorise_receipt._run`. -/
def categoriseReceipt (env : Env) (receiptId : UUID) : Service Unit := do
  let rows ← sql (.selectReceipts [] (fun r => r.id = receiptId))
  match ← scalarOneOrNone rows with
  | none => return ()
  | some receipt => do
      let linked ← sql (.selectExpenses [] (fun e => e.receiptId = some receiptId))
      match ← scalarOneOrNone linked with
      | some _ =>
          if receipt.status ≠ .categorised then saveColumns receipt [.status .categorised]
          else return ()
      | none =>
          if receipt.status ≠ .parsed then return ()
          else do
            let (merchant, amount, expenseDate) ←
              coercePayload env (receipt.parsedPayload.getD (.obj []))
            let (merchant, category) ← categoriseJson env receipt.userId merchant
            insertReceiptExpense receipt merchant amount category expenseDate

end SpendLens
