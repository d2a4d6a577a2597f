/-
# The describer

`describe_image` gets the bytes of the thumbnail, shrinks the image and asks Gemini for a
description.  The checks of a thumbnail's URL and its download are the subject of
`Modules/Download.lean`; here they are two of the awaited calls.
-/
import ImageDescriptor.Modules.Lookup
import ImageDescriptor.Python.Base64
import ImageDescriptor.Python.Text
import ImageDescriptor.Utils.Retry

namespace ImageDescriptor.Describer

/-- What is formatted into the prompt. -/
structure Prompt where
  placeName : String
  capturedAt : Option String
  landCoverSummary : String
  bbox : Option (ℚ × ℚ × ℚ × ℚ)
deriving DecidableEq

/-- How the calls end that `describe_image` makes: the check of the URL, the download after
its retries, the resizing in a thread, and each attempt to generate a text. -/
structure Answers where
  validateThumbnailUrl : Except Exc Unit
  downloadImage : Except Exc Bytes
  resizeForGemini : Bytes → Except Exc Bytes
  generateContent : Prompt → Bytes → ℕ → Except Exc (Option String)

/-- `_call_gemini`: an answer without a text fails the attempt. -/
def callGemini (generate : ℕ → Except Exc (Option String)) : Except Exc String :=
  retryGemini fun n => do
    match ← generate n with
    | some text =>
      let stripped := (text.toList.dropWhile isSpace).reverse.dropWhile isSpace
      pure (String.ofList stripped.reverse)
    | none => throw ⟨.attributeError, "'NoneType' object has no attribute 'strip'"⟩

/-- `s.split(",", 1)[1]`, if there is a comma. -/
def afterComma (s : List Char) : Option (List Char) :=
  match s.dropWhile (· ≠ ',') with
  | ',' :: rest => some rest
  | _ => none

/-- The bytes of the thumbnail, and what getting them has done upstream. -/
def thumbnailBytes (thumbnail : String) (answers : Answers) : Upstream × Except Exc Bytes :=
  if "data:image".toList.isPrefixOf thumbnail.toList then
    match afterComma thumbnail.toList with
    | none => (.notContacted, .error ⟨.valueError, "Invalid data URI: missing comma separator"⟩)
    | some data => (.notContacted, b64decode data)
  else if "http".toList.isPrefixOf thumbnail.toList then
    match answers.validateThumbnailUrl with
    | .error e => (.notContacted, .error e)
    | .ok () => (upstreamOf answers.downloadImage, answers.downloadImage)
  else (.notContacted, b64decode thumbnail.toList)

/-- `except (base64.binascii.Error, ValueError)` around the preparation of the bytes. -/
def invalidThumbnail (e : Exc) : Exc :=
  if e.isinstance .binasciiError || e.isinstance .valueError then
    ⟨.valueError, "Invalid thumbnail data: " ++ e.message⟩
  else e

/-- `cached["description"]`. -/
def cachedDescription : Json → Except Exc Json
  | .obj fields =>
    match fields.lookup "description" with
    | some v => .ok v
    | none => .error ⟨.keyError, "'description'"⟩
  | _ => .error ⟨.typeError, "indices must be integers"⟩

def cacheKey (cogImageId : String) : String := "describe:" ++ cogImageId

/-- The call after the cache: its result is a description that was not cached. -/
def afterCache (thumbnail : String) (prompt : Prompt) (cogImageId : Option String)
    (answers : Answers) (written : Except Exc Unit) : ModuleRun (Json × Bool) :=
  match thumbnailBytes thumbnail answers with
  | (upstream, .error e) => ⟨upstream, none, .error (invalidThumbnail e)⟩
  | (upstream, .ok bytes) =>
    match answers.resizeForGemini bytes with
    | .error e => ⟨upstream, none, .error e⟩
    | .ok image =>
      match callGemini (answers.generateContent prompt image) with
      -- a downloaded thumbnail does not make up for it
      | .error e => ⟨.failed, none, .error e⟩
      | .ok description =>
        let entry := if nonEmpty cogImageId then
            some ⟨cacheKey (cogImageId.getD ""), [("description", .str description)], {}⟩
          else none
        ⟨.succeeded, entry,
          (Rest.mk entry (.ok (.str description, false))).after written⟩

/-- `describe_image`. -/
def describeImage (thumbnail : String) (prompt : Prompt) (cogImageId : Option String)
    (cached : Except Exc Json) (answers : Answers) (written : Except Exc Unit) :
    ModuleRun (Json × Bool) :=
  if nonEmpty cogImageId then
    match cached with
    | .error e => ⟨.notContacted, none, .error e⟩
    | .ok v =>
      if v.truthy then ⟨.notContacted, none, (cachedDescription v).map fun d => (d, true)⟩
      else afterCache thumbnail prompt cogImageId answers written
  else afterCache thumbnail prompt cogImageId answers written

end ImageDescriptor.Describer
