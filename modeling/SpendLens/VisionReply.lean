/-
# Replies of the vision model

The reply of the model is a text, and is to be a JSON object.  A text that is no JSON is no
opinion, and so are the fields of an object that are no good; but a reply that is some other JSON
value, nests too deep for the reader or has a number with too many digits raises, and fails a
receipt whose text has been read.
-/
import SpendLens.ReceiptTasks

namespace SpendLens

namespace Vision

/-! ## Replies -/

/-- The call that asks the configured model. -/
def visionRequest (env : Env) (imageBytes : List UInt8) (imageMime : String) : Ext :=
  .chatCompletion env.settings.openaiModelVision visionPrompt
    ["Extract the fields.", toDataUrl imageBytes imageMime]

/-- A key is configured, and the model replies with this content. -/
structure Replies (env : Env) (w : World Unit) (imageBytes : List UInt8) (imageMime : String)
    (content : Option String) : Prop where
  key : env.settings.openaiApiKey.any (fun key => !key.isEmpty) = true
  reply : env.external w.calls (visionRequest env imageBytes imageMime) = .ok content

/-- **A reply never raises**: the extraction returns, and where the text recognised is poor the
fields are the extraction's or, without an opinion, those of the text. -/
structure NeverRaises (env : Env) (w : World Unit) (imageBytes : List UInt8) (imageMime : String) :
    Prop where
  returns : ∃ opinion, (Prog.run (alone env)
    (extractWithVision env imageBytes imageMime env.settings.openaiModelVision) w).1 = .ok opinion
  fields : ∀ readers ocr, ocr.meanConfidence < env.settings.ocrConfidenceThreshold →
    (∃ parsed, (Prog.run (alone env) (readFields env readers ocr imageBytes imageMime) w).1 =
        .ok (parsed, .gpt4v)) ∨
      (Prog.run (alone env) (readFields env readers ocr imageBytes imageMime) w).1 =
        .ok (readers.parseReceiptText ocr.text, .tesseract)

/-- The content is no JSON, or an object. -/
def Harmless (depth : ℕ) (content : Option String) : Prop :=
  Json.loads depth (content.getD "").toList = .error .malformed ∨
    ∃ kvs, Json.loads depth (content.getD "").toList = .ok (.obj kvs)

/-- What the extraction makes of a reply. -/
def readReply (env : Env) (content : Option String) : Except PyExc (Option ParsedReceipt) :=
  match Json.loads env.jsonDepth (content.getD "").toList with
  | .error .malformed => .ok none
  | .error .tooManyDigits =>
      .error (.valueError "Exceeds the limit (4300 digits) for integer string conversion")
  | .error .tooDeep => .error .recursionError
  | .ok payload => (payloadToParsedReceipt env.unicode payload).map some

variable {env : Env} {w : World Unit} {imageBytes : List UInt8} {imageMime : String}
  {content : Option String}

theorem run_extractWithVision (h : Replies env w imageBytes imageMime content) :
    Prog.run (alone env) (extractWithVision env imageBytes imageMime
      env.settings.openaiModelVision) w = (readReply env content, w.tick) := by
  have hreply : alone env (.ext (.chatCompletion env.settings.openaiModelVision visionPrompt
      ["Extract the fields.", toDataUrl imageBytes imageMime])) w = (.ok content, w.tick) :=
    Prod.ext h.reply rfl
  rw [extractWithVision, if_pos h.key, Prog.run_call, hreply, readReply]
  simp only
  cases Json.loads env.jsonDepth (content.getD "").toList with
  | error e => cases e <;> rfl
  | ok payload =>
      simp only
      cases payloadToParsedReceipt env.unicode payload <;> rfl

/-- **A reply is read without an exception** exactly if it is harmless. -/
theorem readReply_ok_iff (env : Env) :
    (∃ opinion, readReply env content = .ok opinion) ↔ Harmless env.jsonDepth content := by
  rw [Harmless, readReply]
  cases Json.loads env.jsonDepth (content.getD "").toList with
  | error e =>
      cases e with
      | malformed => exact iff_of_true ⟨none, rfl⟩ (Or.inl rfl)
      | _ =>
          refine iff_of_false ?_ ?_
          · rintro ⟨opinion, h⟩
            cases h
          · rintro (h | ⟨kvs, h⟩) <;> cases h
  | ok payload =>
      cases payload with
      | obj kvs => exact iff_of_true ⟨_, rfl⟩ (Or.inr ⟨kvs, rfl⟩)
      | _ =>
          refine iff_of_false ?_ ?_
          · rintro ⟨opinion, h⟩
            cases h
          · rintro (h | ⟨kvs, h⟩) <;> cases h

/-- The fields of a poor text, once the model has been asked. -/
theorem run_readFields (h : Replies env w imageBytes imageMime content) (readers : Readers)
    {ocr : OcrResult} (hpoor : ocr.meanConfidence < env.settings.ocrConfidenceThreshold) :
    (Prog.run (alone env) (readFields env readers ocr imageBytes imageMime) w).1 =
      (readReply env content).map (fun opinion =>
        opinion.elim (readers.parseReceiptText ocr.text, .tesseract)
          (fun parsed => (parsed, .gpt4v))) := by
  rw [readFields, if_pos (by simp [hpoor, h.key]), Prog.bind_eq, Prog.run_bind,
    run_extractWithVision h]
  cases readReply env content with
  | error e => rfl
  | ok opinion => cases opinion <;> rfl

/-- Surroundings in which the model replies with a content. -/
def replying (content : String) : Env :=
  { Env.quiet with
    settings := { Env.quiet.settings with openaiApiKey := some "key" }
    external := fun _ x => match x with
      | .chatCompletion _ _ _ => .ok (some content)
      | _ => .error .httpError }

theorem replies_replying (content : String) :
    Replies (replying content) (World.ofDb (Db.ofUsers [])) [] "image/png" (some content) :=
  ⟨rfl, rfl⟩

end Vision

end SpendLens
