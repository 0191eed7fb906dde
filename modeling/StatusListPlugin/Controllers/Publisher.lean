import Mathlib.Data.String.Basic
import Mathlib.Data.List.Sort
import StatusListPlugin.Bitarray
import StatusListPlugin.Storage

/-!
# The status list publisher controller

`publish_status_list` of `status_list_publisher.py`. It loads the definition and its status
lists; for each list it sorts the entries by `index`, appends one bit per entry, gzips and
base64url-encodes the bytes, builds the payload of the requested format, signs it with
`jwt_sign` and, given a `publish_uri`, writes the token to a file. gzip, base64url, `str`,
`jwt_sign` and the file system are library code: the model takes them as parameters, each codec
with the law that its decoder gives back what it encoded, and the file write with the law that
what it raises is not one of ACA-Py's errors. The times `nbf`, `iat`, `exp`, `published_at`,
`validFrom` and `validUntil`, read from `datetime.now()`, and the constant fields of the `w3c`
credential are left out of the payload.
-/

namespace StatusListPlugin

/-- An encoding with a decoder that undoes it. -/
structure Codec (α β : Type) where
  encode : α → β
  decode : β → Option α
  decode_encode : ∀ value, decode (encode value) = some value

/-- The claims of the chosen `publish_format`. -/
inductive StatusClaims
  /-- `"status_list": {"bits": …, "lst": …}` of the `ietf` format. -/
  | ietf (bits lst : String)
  /-- The `vc` claim of the `w3c` format: the credential's `id` and `issuer`, and its
  `credentialSubject` `id`, `statusPurpose` and `encodedList`. -/
  | w3c (definition_id issuer_did : JsonValue) (id issuer subjectId statusPurpose encodedList : String)
  /-- Neither format: the payload keeps only the common claims. -/
  | common

/-- The payload published for one status list. -/
structure Payload where
  iss : JsonValue
  jti : String
  sub : String
  claims : StatusClaims

/-- The library functions `publish_status_list` calls. -/
structure PublishLibrary where
  /-- `gzip.compress`, with `gzip.decompress`. -/
  gzip : Codec (List UInt8) (List UInt8)
  /-- `bytes_to_b64(value, True)`, base64url, with its decoder. -/
  bytes_to_b64 : Codec (List UInt8) String
  /-- `str(value)`, as an f-string formats a value. -/
  str : JsonValue → String
  /-- `jwt_sign(profile, headers, payload, did=issuer_did)`. -/
  jwt_sign : List (String × String) → Payload → JsonValue → Except PyError String
  /-- `os.makedirs(os.path.dirname(file_path), exist_ok=True)`, fsspec's `open(file_path, "w")`
  and `file.write(jws)`: the token written at the path, or what the file system raised. -/
  file_write : String → String → Except PyError Unit
  /-- The file system raises `OSError` and its own errors, none of which is a `BaseError`. -/
  file_write_not_base : ∀ path jws cause, file_write path jws = .error cause →
    cause.isStorageError = false

/-- What `publish_status_list` answers. `except BaseError` turns the storage errors into `404`;
any other exception is a server error. -/
inductive PublishResponse
  | published (payloads : List Payload)
  | notFound (cause : PyError)
  | serverError (cause : PyError)

/-- `except BaseError as err: raise web.HTTPNotFound`. -/
def notFoundOnBaseError (cause : PyError) : PublishResponse :=
  if cause.isStorageError then .notFound cause else .serverError cause

/-- `f"https://dev.lab.di.gov.on.ca/credentials/status/{sequence}"`: the `sub` claim, and the
`id` of the `w3c` credential. -/
def credentialUrl (sequence : String) : String :=
  "https://dev.lab.di.gov.on.ca/credentials/status/" ++ sequence

/-- `f"https://dev.lab.di.gov.on.ca/status/{sequence}#list"`: the `id` of the `w3c`
credential subject. -/
def subjectUrl (sequence : String) : String :=
  "https://dev.lab.di.gov.on.ca/status/" ++ sequence ++ "#list"

/-- `f"{publish_uri}/{status_list.sequence}-{publish_format}.jwt"`. -/
def filePath (lib : PublishLibrary) (publish_uri publish_format : JsonValue) (sequence : String) :
    String :=
  lib.str publish_uri ++ "/" ++ sequence ++ "-" ++ lib.str publish_format ++ ".jwt"

/-- `sorted(entries, key=lambda entry: entry.index)`: every key is computed first, then the
entries are ordered stably by their keys, compared as Python compares strings, code point by
code point. -/
def sortByIndex (entries : List StatusListEntry) : Except PyError (List StatusListEntry) := do
  let keyed ← entries.mapM fun entry => (·, entry) <$> entry.index
  pure ((keyed.insertionSort fun first second => first.1.toList ≤ second.1.toList).map Prod.snd)

/-- Lines 98–107: the entries sorted, one bit appended per entry, and the bytes gzipped and
base64url-encoded. -/
def encodeStatusList (lib : PublishLibrary) (entries : List StatusListEntry) :
    Except PyError String := do
  let sorrted ← sortByIndex entries
  let bits ← sorrted.foldlM (fun bits entry => appendBit bits entry.status) []
  pure (lib.bytes_to_b64.encode (lib.gzip.encode (tobytes bits)))

/-- Lines 109–163: the headers and payload of the requested format. With neither format
`headers` is never bound, and the call of `jwt_sign` that reads it raises
`UnboundLocalError`. -/
def statusPayload (lib : PublishLibrary) (definition_id issuer_did publish_format : JsonValue)
    (definition : StatusListDefinition) (statusList : StatusList) (encoded : String) :
    Except PyError (List (String × String) × Payload) :=
  let payload : Payload :=
    { iss := issuer_did, jti := "urn:uuid:" ++ statusList.id,
      sub := credentialUrl statusList.sequence, claims := .common }
  if publish_format.isText "ietf" then
    pure ([("typ", "statuslist+jwt")],
      { payload with claims := .ietf (toString statusList.entry_size) encoded })
  else if publish_format.isText "w3c" then
    pure ([], { payload with
      claims := .w3c definition_id issuer_did (credentialUrl statusList.sequence)
        (lib.str issuer_did) (subjectUrl statusList.sequence) (lib.str definition.status_purpose)
        encoded })
  else throw .unboundLocalError

/-- One turn of the loop of lines 96–172: the payload of the list, and the file written when a
`publish_uri` is given, as its path and the signed token. -/
def publishList (lib : PublishLibrary) (session : Store) (definition : StatusListDefinition)
    (definition_id issuer_did publish_format publish_uri : JsonValue) (statusList : StatusList) :
    Except PyError (Payload × Option (String × String)) := do
  let entries : List StatusListEntry :=
    BaseRecord.query session [("status_list_id", statusList.id)]
  let base64 ← encodeStatusList lib entries
  let (headers, payload) ←
    statusPayload lib definition_id issuer_did publish_format definition statusList base64
  let jws ← lib.jwt_sign headers payload issuer_did
  if publish_uri.isNone then pure (payload, none)
  else
    let path := filePath lib publish_uri publish_format statusList.sequence
    lib.file_write path jws
    pure (payload, some (path, jws))

/-- The loop over the lists: the files written, in order, and the payloads, or the exception of
the first list that raised. The files written before it stay. -/
def publishLists (publishOne : StatusList → Except PyError (Payload × Option (String × String))) :
    List StatusList → List (String × String) × Except PyError (List Payload)
  | [] => ([], pure [])
  | statusList :: rest =>
      match publishOne statusList with
      | .error cause => ([], throw cause)
      | .ok (payload, file) =>
          (file.toList ++ (publishLists publishOne rest).1,
            (payload :: ·) <$> (publishLists publishOne rest).2)

/-- Lines 84–89: the four values read from the body, before the `try`. -/
def publishFields (body : JsonValue) : Except PyError (JsonValue × JsonValue × JsonValue × JsonValue) := do
  let definition_id ← body.get "definition_id"
  let issuer_did ← body.get "issuer_did"
  let publish_format ← body.get "publish_format"
  let publish_uri ← body.get "publish_uri"
  pure (definition_id, issuer_did, publish_format, publish_uri)

/-- Lines 93–100: the definition, and its id as the tag filter of its lists uses it. -/
def loadDefinition (session : Store) (definition_id : JsonValue) :
    Except PyError (String × StatusListDefinition) := do
  let key ← definition_id.recordKey
  let definition : StatusListDefinition ← BaseRecord.retrieveById session key
  pure (key, definition)

/-- `publish_status_list`: the files written and the response. -/
def publishStatusList (lib : PublishLibrary) (session : Store) (body : JsonValue) :
    List (String × String) × PublishResponse :=
  match publishFields body with
  | .error cause => ([], .serverError cause)
  | .ok (definition_id, issuer_did, publish_format, publish_uri) =>
      match loadDefinition session definition_id with
      | .error cause => ([], notFoundOnBaseError cause)
      | .ok (key, definition) =>
          let results : List StatusList := BaseRecord.query session [("definition_id", key)]
          let published := publishLists
            (publishList lib session definition definition_id issuer_did publish_format
              publish_uri) results
          match published.2 with
          | .ok payloads => (published.1, .published payloads)
          | .error cause => (published.1, notFoundOnBaseError cause)

end StatusListPlugin
