import StatusListPlugin.Controllers.Publisher
import StatusListPlugin.Allocator

/-!
# What a published status list says

A verifier reads a published list back with the base64url decoder, `gzip.decompress` and the
bits of each byte, most significant first. This module proves what that reading gives for the
lists of a consistent store: exactly one bit per entry, followed by zero bits up to a whole
byte; and the bits in the string order of the entries' `index`. So the encoding raises as soon
as an entry's status is not `0` or `1`, however wide the definition's `status_size`, and bit
`i` is the status of the entry of slot `i` only while all indices are single digits. Last,
the publication of a definition answers with its payloads exactly when every entry of every
list of the definition holds a bit.
-/

namespace StatusListPlugin

/-- The list a verifier reads from a published `lst` or `encodedList`: base64url-decoded,
gunzipped, and read most significant bit first. -/
def decodeStatusList (lib : PublishLibrary) (published : String) : Option (List Bool) := do
  let compressed ← lib.bytes_to_b64.decode published
  let bytes ← lib.gzip.decode compressed
  pure (readBits bytes)

/-- The encoded list a payload carries: `lst` in the `ietf` format, `encodedList` in the
`w3c` one. -/
def StatusClaims.encodedList? : StatusClaims → Option String
  | .ietf _ lst => some lst
  | .w3c _ _ _ _ _ _ encodedList => some encodedList
  | .common => none

/-- The `id` of a `w3c` credential. -/
def StatusClaims.credentialId? : StatusClaims → Option String
  | .w3c _ _ id _ _ _ _ => some id
  | _ => none

/-- The `id` of a `w3c` credential subject. -/
def StatusClaims.subjectId? : StatusClaims → Option String
  | .w3c _ _ _ _ subjectId _ _ => some subjectId
  | _ => none

theorem decodeStatusList_encode (lib : PublishLibrary) (bytes : List UInt8) :
    decodeStatusList lib (lib.bytes_to_b64.encode (lib.gzip.encode bytes)) =
      some (readBits bytes) := by
  simp [decodeStatusList, Codec.decode_encode]

/-- What a successful publication answers with, or nothing. -/
def PublishResponse.payloads : PublishResponse → List Payload
  | .published payloads => payloads
  | _ => []

/-- The encoded lists of the answered payloads. -/
def PublishResponse.encodedLists (response : PublishResponse) : List String :=
  response.payloads.filterMap (·.claims.encodedList?)

/-- The `sub` claims of the answered payloads. -/
def PublishResponse.subs (response : PublishResponse) : List String :=
  response.payloads.map (·.sub)

/-! ## A library for runs on fixed inputs -/

theorem toUInt8_toNat (byte : UInt8) : byte.toNat.toUInt8 = byte := by
  apply UInt8.eq_of_val_eq
  simp [Nat.toUInt8, UInt8.ofNat, UInt8.toNat, Fin.ofNat]

theorem toUInt8_ofNat_toNat (byte : UInt8) : (Char.ofNat byte.toNat).toNat.toUInt8 = byte := by
  have valid : byte.toNat.isValidChar := Or.inl (by have := byte.toNat_lt; omega)
  rw [Char.ofNat, dif_pos valid]
  exact toUInt8_toNat byte

/-- Each byte written as the character of its code point. -/
def latin1 : Codec (List UInt8) String where
  encode bytes := ⟨bytes.map fun byte => Char.ofNat byte.toNat⟩
  decode text := some (text.toList.map fun c => c.toNat.toUInt8)
  decode_encode bytes := by
    simp only [String.toList, List.map_map, Function.comp_def, toUInt8_ofNat_toNat, List.map_id']

/-- The library of the runs below: no compression, `latin1` for base64url, `str` of strings,
a signer that always signs and a file system that takes every write. -/
def sampleLibrary : PublishLibrary where
  gzip := ⟨id, some, fun _ => rfl⟩
  bytes_to_b64 := latin1
  str value := match value with
    | .str text => text
    | _ => ""
  jwt_sign _ _ _ := .ok "signed"
  file_write _ _ := .ok ()
  file_write_not_base _ _ _ written := nomatch written

/-- A `publish_status_list` body in the `ietf` format, written under `/tmp/status`. -/
def publishBody (definitionId : String) : JsonValue :=
  .object [("definition_id", .str definitionId), ("issuer_did", .str "did:web:issuer"),
    ("publish_format", .str "ietf"), ("publish_uri", .str "/tmp/status")]

/-! ## The encoding step -/

theorem keyed_of_forall₂ {entries : List StatusListEntry} {keyed : List (String × StatusListEntry)}
    (related : List.Forall₂ (fun entry key => (·, entry) <$> entry.index = .ok key) entries keyed) :
    (∀ key ∈ keyed, key.2.index = .ok key.1) ∧ keyed.map Prod.snd = entries := by
  induction related with
  | nil => simp
  | cons keyOk _ inductionHypothesis =>
      obtain ⟨key, found, rfl⟩ := except_map_eq_ok.mp keyOk
      obtain ⟨keys, entriesEq⟩ := inductionHypothesis
      refine ⟨?_, by rw [List.map_cons, entriesEq]⟩
      rintro _ (_ | ⟨_, member⟩)
      · exact found
      · exact keys _ member

/-- The order `sorted` puts the entries in: by the keys computed from them. -/
theorem sortByIndex_eq_ok {entries sorrted : List StatusListEntry}
    (sorted : sortByIndex entries = .ok sorrted) :
    ∃ keyed : List (String × StatusListEntry), (∀ key ∈ keyed, key.2.index = .ok key.1) ∧
      keyed.map Prod.snd = entries ∧
      sorrted = (keyed.insertionSort fun first second => first.1.toList ≤ second.1.toList).map
        Prod.snd := by
  obtain ⟨keyed, keyedOk, done⟩ := except_bind_eq_ok.mp sorted
  cases done
  obtain ⟨keys, entriesEq⟩ := keyed_of_forall₂ (except_mapM_eq_ok.mp keyedOk)
  exact ⟨keyed, keys, entriesEq, rfl⟩

theorem sortByIndex_perm {entries sorrted : List StatusListEntry}
    (sorted : sortByIndex entries = .ok sorrted) : sorrted.Perm entries := by
  obtain ⟨keyed, -, entriesEq, rfl⟩ := sortByIndex_eq_ok sorted
  rw [← entriesEq]
  exact (List.perm_insertionSort _ _).map _

theorem sortByIndex_of_indexed {entries : List StatusListEntry}
    (indexed : ∀ entry ∈ entries, ∃ key, entry.index = .ok key) :
    ∃ sorrted, sortByIndex entries = .ok sorrted := by
  obtain ⟨keyed, keyedOk⟩ := @except_mapM_of_ok PyError StatusListEntry (String × StatusListEntry)
    (fun entry => (·, entry) <$> entry.index) entries fun entry member => by
      obtain ⟨key, found⟩ := indexed entry member
      exact ⟨(key, entry), by simp only [found]; rfl⟩
  exact ⟨_, by rw [sortByIndex, keyedOk]; rfl⟩

/-- The encoding succeeds exactly when the entries sort and every status is a bit; it then
encodes the bytes of those bits. -/
theorem encodeStatusList_eq_ok {lib : PublishLibrary} {entries : List StatusListEntry}
    {published : String} :
    encodeStatusList lib entries = .ok published ↔
      ∃ sorrted, sortByIndex entries = .ok sorrted ∧
        ∃ bits, (sorrted.map (·.status)).mapM statusBit = .ok bits ∧
          published = lib.bytes_to_b64.encode (lib.gzip.encode (tobytes bits)) := by
  rw [encodeStatusList, except_bind_eq_ok]
  refine exists_congr fun sorrted => and_congr_right fun _ => ?_
  have folded : sorrted.foldlM (fun bits entry => appendBit bits entry.status) [] =
      ([] ++ ·) <$> (sorrted.map (·.status)).mapM statusBit := by
    rw [← foldlM_appendBit, List.foldlM_map]
  rw [folded, except_bind_eq_ok]
  constructor
  · rintro ⟨appended, mapped, done⟩
    obtain ⟨bits, bitsOk, rfl⟩ := except_map_eq_ok.mp mapped
    exact ⟨bits, bitsOk, (Except.ok.inj done).symm⟩
  · rintro ⟨bits, bitsOk, rfl⟩
    exact ⟨bits, by rw [bitsOk]; simp, rfl⟩

/-! ## The entries of a list -/

theorem query_status_list_id (txn : Store) (statusListId : String) :
    (BaseRecord.query txn [("status_list_id", statusListId)] : List StatusListEntry) =
      txn.entries.filter (·.status_list_id == statusListId) := by
  unfold BaseRecord.query
  refine List.filter_congr fun entry _ => ?_
  rw [Bool.eq_iff_iff, matchesFilter_status_list_id, beq_iff_eq]

/-- A laid-out list has one entry per slot. -/
theorem ListShape.length_query {txn : Store} {statusList : StatusList}
    (shape : ListShape txn.entries statusList) :
    (BaseRecord.query txn [("status_list_id", statusList.id)] : List StatusListEntry).length =
      rangeLength 0 statusList.list_size statusList.entry_size := by
  simpa [query_status_list_id] using shape.ids_perm.length_eq

/-- Each entry of a laid-out list is the entry of a slot, and its `index` reads the slot back,
without its sign. -/
theorem ListShape.index_of_query {txn : Store} {statusList : StatusList}
    (shape : ListShape txn.entries statusList) {entry : StatusListEntry}
    (listed : entry ∈ (BaseRecord.query txn [("status_list_id", statusList.id)] :
      List StatusListEntry)) :
    ∃ listIndex ∈ rangeValues 0 statusList.list_size statusList.entry_size,
      entry.id = entryId statusList.id listIndex ∧
        entry.index = .ok (toString listIndex.natAbs) := by
  obtain ⟨member, filtered⟩ := BaseRecord.mem_query.mp listed
  obtain ⟨listIndex, slot, idEq, -⟩ :=
    shape.slot member ((matchesFilter_status_list_id _ _).mp filtered)
  exact ⟨listIndex, slot, idEq, by rw [StatusListEntry.index, idEq, index_entryId]⟩

/-- The encoding step on the entries of a list of a reachable state raises exactly when some
entry's status is not a bit, whatever the list's `entry_size`; when it does not, the gunzipped
bytes hold one bit per slot, then zero bits up to a whole byte. -/
theorem encoding_step_bytes {allowed : Request → Prop} {sys : System}
    (reachable : Reachable allowed sys) {statusList : StatusList}
    (listed : statusList ∈ sys.store.lists) (lib : PublishLibrary) :
    let entries : List StatusListEntry :=
      BaseRecord.query sys.store [("status_list_id", statusList.id)]
    let slots := rangeLength 0 statusList.list_size statusList.entry_size
    ((∃ published, encodeStatusList lib entries = .ok published) ↔
        ∀ entry ∈ entries, ∃ bit, statusBit entry.status = .ok bit) ∧
      ∀ published, encodeStatusList lib entries = .ok published →
        ∃ bytes bits, (lib.bytes_to_b64.decode published).bind lib.gzip.decode = some bytes ∧
          bytes.length = (slots + 7) / 8 ∧ bits.length = slots ∧
          readBits bytes = bits ++ List.replicate ((8 - slots % 8) % 8) false := by
  intro entries slots
  have shape := reachable.consistent.list_shape statusList listed
  obtain ⟨sorrted, sorted⟩ := sortByIndex_of_indexed fun entry listed =>
    let ⟨_, _, _, indexed⟩ := shape.index_of_query listed
    ⟨_, indexed⟩
  have perm := sortByIndex_perm sorted
  have statuses : (∃ bits, (sorrted.map (·.status)).mapM statusBit = .ok bits) ↔
      ∀ entry ∈ entries, ∃ bit, statusBit entry.status = .ok bit := by
    rw [except_mapM_ok_iff, List.forall_mem_map]
    exact forall_congr' fun entry => imp_congr_left perm.mem_iff
  refine ⟨⟨fun ⟨published, encoded⟩ => ?_, fun bitStatuses => ?_⟩, fun published encoded => ?_⟩
  · obtain ⟨sorrted', sorted', bits, bitsOk, -⟩ := encodeStatusList_eq_ok.mp encoded
    rw [sorted] at sorted'
    cases sorted'
    exact statuses.mp ⟨bits, bitsOk⟩
  · obtain ⟨bits, bitsOk⟩ := statuses.mpr bitStatuses
    exact ⟨_, encodeStatusList_eq_ok.mpr ⟨sorrted, sorted, bits, bitsOk, rfl⟩⟩
  · obtain ⟨sorrted', sorted', bits, bitsOk, rfl⟩ := encodeStatusList_eq_ok.mp encoded
    rw [sorted] at sorted'
    cases sorted'
    have counted : bits.length = slots := by
      rw [← (except_mapM_eq_ok.mp bitsOk).length_eq, List.length_map, perm.length_eq,
        shape.length_query]
    exact ⟨tobytes bits, bits, by simp [Codec.decode_encode], by rw [length_tobytes, counted],
      counted, by rw [readBits_tobytes, counted]⟩

/-- A definition with `status_size` `2` and `list_size` `2`: one slot, whose status may be
`0`, `1`, `2` or `3`. -/
def twoBitSlot : JsonValue :=
  .object [("status_purpose", .str "revocation"), ("status_size", .int 2),
    ("status_message", .object [("0x00", .str "active"), ("0x01", .str "revoked")]),
    ("list_size", .int 2)]

/-- With `status_size` `2`, the status `2` of the only entry is one `bitarray.append` cannot
take: the encoding raises `ValueError` with every library, and the publication answers `500`. -/
theorem two_bit_status_not_encoded :
    let defined := handle System.initial (.createStatusListDef twoBitSlot firstUuid)
    let allocated := handle defined.1
      (.createStatusListEntry (entryRequestBody firstUuid) secondUuid reversal)
    let updated := handle allocated.1 (.updateStatusListEntry secondUuid "0" (.int 2))
    let statusList : StatusList := ⟨secondUuid, firstUuid, "0", 2, 2, 2⟩
    let entries : List StatusListEntry :=
      BaseRecord.query updated.1.store [("status_list_id", statusList.id)]
    let slots := rangeLength 0 statusList.list_size statusList.entry_size
    Reachable (fun _ => True) updated.1 ∧ statusList ∈ updated.1.store.lists ∧
      (((∃ published, encodeStatusList sampleLibrary entries = .ok published) ↔
          ∀ entry ∈ entries, ∃ bit, statusBit entry.status = .ok bit) ∧
        ∀ published, encodeStatusList sampleLibrary entries = .ok published →
          ∃ bytes bits, (sampleLibrary.bytes_to_b64.decode published).bind
              sampleLibrary.gzip.decode = some bytes ∧
            bytes.length = (slots + 7) / 8 ∧ bits.length = slots ∧
            readBits bytes = bits ++ List.replicate ((8 - slots % 8) % 8) false) ∧
      (∀ lib, encodeStatusList lib entries = .error (.valueError "bit must be 0 or 1")) ∧
      (publishStatusList sampleLibrary updated.1.store (publishBody firstUuid)).2 =
        .serverError (.valueError "bit must be 0 or 1") := by
  intro defined allocated updated statusList entries slots
  have reachable : Reachable (fun _ => True) updated.1 :=
    ⟨_, .step (.step (.step .nil trivial (by rintro uid ⟨⟩; decide)) trivial
      (by rintro uid ⟨⟩; decide)) trivial (by rintro uid ⟨⟩)⟩
  have listed : statusList ∈ updated.1.store.lists := by decide
  refine ⟨reachable, listed, encoding_step_bytes reachable listed sampleLibrary, fun _ => ?_, ?_⟩ <;>
    simp only [entries, updated, allocated, defined] <;> rfl

/-! ## What the handler publishes -/

theorem exists_of_forall₂ {α β : Type} {R : α → β → Prop} {as : List α} {bs : List β}
    (related : List.Forall₂ R as bs) {b : β} (member : b ∈ bs) : ∃ a ∈ as, R a b := by
  induction related with
  | nil => cases member
  | cons head _ inductionHypothesis =>
      rcases List.mem_cons.mp member with rfl | member
      · exact ⟨_, List.mem_cons_self _ _, head⟩
      · obtain ⟨a, listed, holds⟩ := inductionHypothesis member
        exact ⟨a, List.mem_cons_of_mem _ listed, holds⟩

theorem map_eq_of_forall₂ {α β γ : Type} {R : α → β → Prop} {as : List α} {bs : List β}
    {f : α → γ} {g : β → γ} (related : List.Forall₂ R as bs) (each : ∀ a b, R a b → g b = f a) :
    bs.map g = as.map f := by
  induction related with
  | nil => rfl
  | cons head _ inductionHypothesis =>
      rw [List.map_cons, List.map_cons, each _ _ head, inductionHypothesis]

theorem filterMap_eq_of_forall₂ {α β γ : Type} {R : α → β → Prop} {as : List α} {bs : List β}
    {f : α → Option γ} {g : β → Option γ} (related : List.Forall₂ R as bs)
    (each : ∀ a b, R a b → g b = f a) : bs.filterMap g = as.filterMap f := by
  induction related with
  | nil => rfl
  | cons head _ inductionHypothesis =>
      rw [List.filterMap_cons, List.filterMap_cons, each _ _ head, inductionHypothesis]

/-- The loop succeeds exactly when every list published, in order. -/
theorem publishLists_eq_ok
    {publishOne : StatusList → Except PyError (Payload × Option (String × String))}
    {lists : List StatusList} {payloads : List Payload}
    (published : (publishLists publishOne lists).2 = .ok payloads) :
    ∃ outs, List.Forall₂ (fun statusList out => publishOne statusList = .ok out) lists outs ∧
      payloads = outs.map Prod.fst ∧ (publishLists publishOne lists).1 = outs.flatMap (·.2.toList) := by
  induction lists generalizing payloads with
  | nil =>
      cases published
      exact ⟨[], .nil, rfl, rfl⟩
  | cons statusList rest inductionHypothesis =>
      cases one : publishOne statusList with
      | error cause => simp [publishLists, one] at published
      | ok out =>
          obtain ⟨payload, file⟩ := out
          simp only [publishLists, one] at published ⊢
          obtain ⟨restPayloads, restOk, rfl⟩ := except_map_eq_ok.mp published
          obtain ⟨outs, related, rfl, files⟩ := inductionHypothesis restOk
          exact ⟨(payload, file) :: outs, .cons one related, rfl, by rw [files]; rfl⟩

/-- A successful publication is the loop over the lists of the definition the body names. -/
theorem publishStatusList_eq_published {lib : PublishLibrary} {session : Store}
    {body : JsonValue} {files : List (String × String)} {payloads : List Payload}
    (published : publishStatusList lib session body = (files, .published payloads)) :
    ∃ definition_id issuer_did publish_format publish_uri key definition outs,
      publishFields body = .ok (definition_id, issuer_did, publish_format, publish_uri) ∧
      loadDefinition session definition_id = .ok (key, definition) ∧
      List.Forall₂ (fun statusList out => publishList lib session definition definition_id
          issuer_did publish_format publish_uri statusList = .ok out)
        (BaseRecord.query session [("definition_id", key)]) outs ∧
      payloads = outs.map Prod.fst ∧ files = outs.flatMap (·.2.toList) := by
  unfold publishStatusList at published
  cases fieldsOk : publishFields body with
  | error cause => simp [fieldsOk] at published
  | ok fields =>
      obtain ⟨definition_id, issuer_did, publish_format, publish_uri⟩ := fields
      cases loaded : loadDefinition session definition_id with
      | error cause =>
          simp only [fieldsOk, loaded, notFoundOnBaseError] at published
          split at published <;> simp at published
      | ok found =>
          obtain ⟨key, definition⟩ := found
          simp only [fieldsOk, loaded] at published
          split at published
          · rename_i published' publishedOk
            simp only [Prod.mk.injEq, PublishResponse.published.injEq] at published
            obtain ⟨rfl, rfl⟩ := published
            obtain ⟨outs, related, rfl, written⟩ := publishLists_eq_ok publishedOk
            exact ⟨_, _, _, _, _, _, outs, rfl, loaded, related, rfl, written⟩
          · simp [notFoundOnBaseError] at published
            split at published <;> cases published.2

/-- The identifiers of a payload depend on its list alone: its id, and its `sequence`. -/
theorem statusPayload_eq_ok {lib : PublishLibrary} {definition_id issuer_did publish_format : JsonValue}
    {definition : StatusListDefinition} {statusList : StatusList} {encoded : String}
    {headers : List (String × String)} {payload : Payload}
    (built : statusPayload lib definition_id issuer_did publish_format definition statusList encoded =
      .ok (headers, payload)) :
    payload.jti = "urn:uuid:" ++ statusList.id ∧ payload.sub = credentialUrl statusList.sequence ∧
      payload.claims.encodedList? = some encoded ∧
      payload.claims.credentialId? = (if publish_format.isText "ietf" then none
        else some (credentialUrl statusList.sequence)) ∧
      payload.claims.subjectId? = (if publish_format.isText "ietf" then none
        else some (subjectUrl statusList.sequence)) := by
  unfold statusPayload at built
  split at built
  · cases built
    simp_all [StatusClaims.encodedList?, StatusClaims.credentialId?, StatusClaims.subjectId?]
  · split at built
    · cases built
      simp_all [StatusClaims.encodedList?, StatusClaims.credentialId?, StatusClaims.subjectId?]
    · cases built

/-- What one turn of the loop publishes for a list: the encoding of its entries, under the
identifiers of its id and `sequence`, and the file of its `sequence`. -/
theorem publishList_eq_ok {lib : PublishLibrary} {session : Store}
    {definition : StatusListDefinition}
    {definition_id issuer_did publish_format publish_uri : JsonValue} {statusList : StatusList}
    {payload : Payload} {file : Option (String × String)}
    (published : publishList lib session definition definition_id issuer_did publish_format
      publish_uri statusList = .ok (payload, file)) :
    ∃ encoded, encodeStatusList lib
        (BaseRecord.query session [("status_list_id", statusList.id)]) = .ok encoded ∧
      payload.jti = "urn:uuid:" ++ statusList.id ∧ payload.sub = credentialUrl statusList.sequence ∧
      payload.claims.encodedList? = some encoded ∧
      payload.claims.credentialId? = (if publish_format.isText "ietf" then none
        else some (credentialUrl statusList.sequence)) ∧
      payload.claims.subjectId? = (if publish_format.isText "ietf" then none
        else some (subjectUrl statusList.sequence)) ∧
      file.map Prod.fst = (if publish_uri.isNone then none
        else some (filePath lib publish_uri publish_format statusList.sequence)) := by
  simp only [publishList, except_bind_eq_ok] at published
  obtain ⟨encoded, encodedOk, ⟨headers, built⟩, builtOk, jws, -, done⟩ := published
  obtain ⟨jti, sub, encodedList, credentialId, subjectId⟩ := statusPayload_eq_ok builtOk
  refine ⟨encoded, encodedOk, ?_⟩
  split at done
  · cases done
    exact ⟨jti, sub, encodedList, credentialId, subjectId, by simp_all⟩
  · obtain ⟨-, -, done⟩ := except_bind_eq_ok.mp done
    cases done
    exact ⟨jti, sub, encodedList, credentialId, subjectId, by simp_all⟩

/-! ## Addresses -/

/-- Two texts without a dash, each followed by a dash, agree when the whole texts agree. -/
theorem eq_of_append_dash {first second rest rest' : List Char} (firstNoDash : '-' ∉ first)
    (secondNoDash : '-' ∉ second) (same : first ++ '-' :: rest = second ++ '-' :: rest') :
    first = second := by
  induction first generalizing second with
  | nil =>
      cases second with
      | nil => rfl
      | cons c second =>
          obtain ⟨rfl, -⟩ := List.cons.inj same
          exact absurd (List.mem_cons_self _ _) secondNoDash
  | cons c first inductionHypothesis =>
      cases second with
      | nil =>
          obtain ⟨rfl, -⟩ := List.cons.inj same
          exact absurd (List.mem_cons_self _ _) firstNoDash
      | cons d second =>
          simp only [List.cons_append, List.cons.injEq] at same
          obtain ⟨rfl, same⟩ := same
          rw [inductionHypothesis (fun member => firstNoDash (List.mem_cons_of_mem _ member))
            (fun member => secondNoDash (List.mem_cons_of_mem _ member)) same]

theorem credentialUrl_inj {first second : String}
    (same : credentialUrl first = credentialUrl second) : first = second :=
  String.ext (List.append_cancel_left (congrArg String.data same))

theorem subjectUrl_inj {first second : String} (same : subjectUrl first = subjectUrl second) :
    first = second := by
  have data := congrArg String.data same
  simp only [subjectUrl, String.data_append] at data
  exact String.ext (List.append_cancel_left (List.append_cancel_right data))

theorem jti_inj {first second : String}
    (same : "urn:uuid:" ++ first = "urn:uuid:" ++ second) : first = second :=
  String.ext (List.append_cancel_left (congrArg String.data same))

/-- Under one `publish_uri` and `publish_format`, two sequences without a dash have the same
file only when they are the same. -/
theorem filePath_inj {lib : PublishLibrary} {publish_uri publish_format : JsonValue}
    {first second : String} (firstNoDash : '-' ∉ first.data) (secondNoDash : '-' ∉ second.data)
    (same : filePath lib publish_uri publish_format first =
      filePath lib publish_uri publish_format second) : first = second := by
  have data := congrArg String.data same
  simp only [filePath, String.data_append, List.append_assoc] at data
  exact String.ext (eq_of_append_dash firstNoDash secondNoDash
    (List.append_cancel_left (List.append_cancel_left data)))

/-- The lists of one definition: no list twice, one list per `sequence`, and sequences that are
decimal strings of natural numbers. -/
theorem Consistent.definition_lists {sys : System} (consistent : Consistent sys) (key : String) :
    let results : List StatusList := BaseRecord.query sys.store [("definition_id", key)]
    results.Nodup ∧
      (∀ first ∈ results, ∀ second ∈ results, first.sequence = second.sequence → first = second) ∧
      ∀ statusList ∈ results, statusList ∈ sys.store.lists ∧ '-' ∉ statusList.sequence.data := by
  intro results
  refine ⟨(consistent.lists_nodup.of_map _).filter _, fun first firstListed second secondListed
    sameSequence => ?_, fun statusList listed => ?_⟩
  · obtain ⟨firstMember, firstOwned⟩ := BaseRecord.mem_query.mp firstListed
    obtain ⟨secondMember, secondOwned⟩ := BaseRecord.mem_query.mp secondListed
    rw [table_lists] at firstMember secondMember
    refine List.inj_on_of_nodup_map consistent.sequences_nodup firstMember secondMember ?_
    rw [(matchesFilter_definition_id _ _).mp firstOwned,
      (matchesFilter_definition_id _ _).mp secondOwned, sameSequence]
  · have member := (BaseRecord.mem_query.mp listed).1
    obtain ⟨-, -, -, -, -, k, -, sequence⟩ := consistent.list_definition statusList member
    exact ⟨member, by rw [sequence, toString_natCast]; exact not_dash_mem_toString k⟩

theorem map_fst_flatMap_toList {α β γ : Type} (outs : List (α × Option (β × γ))) :
    (outs.flatMap (·.2.toList)).map Prod.fst = outs.filterMap (·.2.map Prod.fst) := by
  induction outs with
  | nil => rfl
  | cons out outs inductionHypothesis =>
      obtain ⟨payload, _ | file⟩ := out <;> simp [inductionHypothesis]

/-- The values a format gives or withholds for all lists alike are distinct when they are
distinct for distinct lists. -/
theorem nodup_filterMap_ite {lists : List StatusList} {address : StatusList → String}
    (nodup : lists.Nodup)
    (distinct : ∀ first ∈ lists, ∀ second ∈ lists, address first = address second → first = second)
    (withheld : Bool) :
    (lists.filterMap fun statusList => if withheld then none else some (address statusList)).Nodup := by
  cases withheld
  · simp only [Bool.false_eq_true, ↓reduceIte]
    rw [show (fun statusList => some (address statusList)) = some ∘ address from rfl,
      List.filterMap_eq_map]
    exact nodup.map_on distinct
  · simp only [↓reduceIte]
    rw [List.filterMap_eq_nil_iff.mpr fun _ _ => rfl]
    exact List.nodup_nil

/-- Publishing the lists of one definition gives each its own identifiers and its own file: the
`sub` claim, the `w3c` credential and subject ids, the `jti` and the file path differ for any
two lists of the call. -/
theorem published_addresses_distinct {allowed : Request → Prop} {sys : System}
    (reachable : Reachable allowed sys) (lib : PublishLibrary) {body : JsonValue}
    {files : List (String × String)} {payloads : List Payload}
    (published : publishStatusList lib sys.store body = (files, .published payloads)) :
    (payloads.map (·.sub)).Nodup ∧ (payloads.filterMap (·.claims.credentialId?)).Nodup ∧
      (payloads.filterMap (·.claims.subjectId?)).Nodup ∧ (payloads.map (·.jti)).Nodup ∧
      (files.map Prod.fst).Nodup := by
  obtain ⟨definition_id, issuer_did, publish_format, publish_uri, key, definition, outs, -, -,
    related, rfl, rfl⟩ := publishStatusList_eq_published published
  obtain ⟨nodup, sameSequence, listed⟩ := reachable.consistent.definition_lists key
  have each : ∀ statusList (out : Payload × Option (String × String)),
      publishList lib sys.store definition definition_id issuer_did publish_format
        publish_uri statusList = .ok out →
      out.1.sub = credentialUrl statusList.sequence ∧ out.1.jti = "urn:uuid:" ++ statusList.id ∧
        out.1.claims.credentialId? = (if publish_format.isText "ietf" then none
          else some (credentialUrl statusList.sequence)) ∧
        out.1.claims.subjectId? = (if publish_format.isText "ietf" then none
          else some (subjectUrl statusList.sequence)) ∧
        out.2.map Prod.fst = (if publish_uri.isNone then none
          else some (filePath lib publish_uri publish_format statusList.sequence)) := by
    rintro statusList ⟨payload, file⟩ emitted
    obtain ⟨-, -, jti, sub, -, credentialId, subjectId, written⟩ := publishList_eq_ok emitted
    exact ⟨sub, jti, credentialId, subjectId, written⟩
  refine ⟨?_, ?_, ?_, ?_, ?_⟩
  · simp only [List.map_map, Function.comp_def]
    rw [map_eq_of_forall₂ related fun statusList out emitted =>
      (each statusList out emitted).1]
    exact nodup.map_on fun first firstListed second secondListed same =>
      sameSequence first firstListed second secondListed (credentialUrl_inj same)
  · simp only [List.filterMap_map, Function.comp_def]
    rw [filterMap_eq_of_forall₂ related fun statusList out emitted =>
      (each statusList out emitted).2.2.1]
    exact nodup_filterMap_ite nodup (fun first firstListed second secondListed same =>
      sameSequence first firstListed second secondListed (credentialUrl_inj same)) _
  · simp only [List.filterMap_map, Function.comp_def]
    rw [filterMap_eq_of_forall₂ related fun statusList out emitted =>
      (each statusList out emitted).2.2.2.1]
    exact nodup_filterMap_ite nodup (fun first firstListed second secondListed same =>
      sameSequence first firstListed second secondListed (subjectUrl_inj same)) _
  · simp only [List.map_map, Function.comp_def]
    rw [map_eq_of_forall₂ related fun statusList out emitted =>
      (each statusList out emitted).2.1]
    exact nodup.map_on fun first firstListed second secondListed same =>
      eq_of_id_eq reachable.consistent.lists_nodup (listed first firstListed).1
        (listed second secondListed).1 (jti_inj same)
  · rw [map_fst_flatMap_toList, filterMap_eq_of_forall₂ related fun statusList out emitted =>
      (each statusList out emitted).2.2.2.2]
    exact nodup_filterMap_ite nodup (fun first firstListed second secondListed same =>
      sameSequence first firstListed second secondListed
        (filePath_inj (listed first firstListed).2 (listed second secondListed).2 same)) _

/-- Three allocations on `unitSizes`: the first list's two slots, then a second list with the
`sequence` `"1"`. Publishing the definition writes two files, under distinct addresses. -/
theorem unit_sizes_published_addresses :
    let defined := handle System.initial (.createStatusListDef unitSizes firstUuid)
    let first := handle defined.1
      (.createStatusListEntry (entryRequestBody firstUuid) secondUuid reversal)
    let second := handle first.1
      (.createStatusListEntry (entryRequestBody firstUuid) thirdUuid reversal)
    let third := handle second.1
      (.createStatusListEntry (entryRequestBody firstUuid) fourthUuid reversal)
    let published := publishStatusList sampleLibrary third.1.store (publishBody firstUuid)
    Reachable (fun _ => True) third.1 ∧
      published = (published.1, .published published.2.payloads) ∧
      published.1 = [("/tmp/status/0-ietf.jwt", "signed"), ("/tmp/status/1-ietf.jwt", "signed")] ∧
      (published.2.payloads.map (·.sub)).Nodup ∧
      (published.2.payloads.filterMap (·.claims.credentialId?)).Nodup ∧
      (published.2.payloads.filterMap (·.claims.subjectId?)).Nodup ∧
      (published.2.payloads.map (·.jti)).Nodup ∧ (published.1.map Prod.fst).Nodup := by
  intro defined first second third published
  have reachable : Reachable (fun _ => True) third.1 :=
    ⟨_, .step (.step (.step (.step .nil trivial (by rintro uid ⟨⟩; decide)) trivial
      (by rintro uid ⟨⟩; decide)) trivial (by rintro uid ⟨⟩; decide)) trivial
      (by rintro uid ⟨⟩; decide)⟩
  have answered : published = (published.1, .published published.2.payloads) := by
    simp only [published, third, second, first, defined]
    rfl
  exact ⟨reachable, answered, by decide,
    published_addresses_distinct reachable sampleLibrary answered⟩

/-- Two definitions, one allocation on each: both lists have the `sequence` `"0"`, so their
publications carry the same `sub` and write the same file. -/
theorem two_definitions_share_addresses :
    let first := handle System.initial (.createStatusListDef unitSizes firstUuid)
    let second := handle first.1 (.createStatusListDef unitSizes secondUuid)
    let firstList := handle second.1
      (.createStatusListEntry (entryRequestBody firstUuid) thirdUuid reversal)
    let secondList := handle firstList.1
      (.createStatusListEntry (entryRequestBody secondUuid) fourthUuid reversal)
    let store := secondList.1.store
    Reachable (fun _ => True) secondList.1 ∧
      store.lists.map (fun statusList => (statusList.id, statusList.definition_id,
        statusList.sequence)) = [(thirdUuid, firstUuid, "0"), (fourthUuid, secondUuid, "0")] ∧
      (publishStatusList sampleLibrary store (publishBody firstUuid)).1 =
        [("/tmp/status/0-ietf.jwt", "signed")] ∧
      (publishStatusList sampleLibrary store (publishBody secondUuid)).1 =
        [("/tmp/status/0-ietf.jwt", "signed")] ∧
      (publishStatusList sampleLibrary store (publishBody firstUuid)).2.subs = [credentialUrl "0"] ∧
      (publishStatusList sampleLibrary store (publishBody secondUuid)).2.subs =
        [credentialUrl "0"] := by
  intro first second firstList secondList store
  refine ⟨⟨_, .step (.step (.step (.step .nil trivial (by rintro uid ⟨⟩; decide)) trivial
    (by rintro uid ⟨⟩; decide)) trivial (by rintro uid ⟨⟩; decide)) trivial
    (by rintro uid ⟨⟩; decide)⟩, by decide, by decide, by decide, ?_, ?_⟩ <;>
    simp only [store, secondList, firstList, second, first] <;> rfl

/-! ## The order of the bits -/

/-- The keys of the pairs `sorted` returns are in string order. -/
theorem keys_insertionSort_sorted (keyed : List (String × StatusListEntry)) :
    ((keyed.insertionSort fun first second => first.1.toList ≤ second.1.toList).map
      Prod.fst).Sorted fun first second : String => first.toList ≤ second.toList := by
  haveI : IsTotal (String × StatusListEntry) fun first second => first.1.toList ≤ second.1.toList :=
    ⟨fun _ _ => le_total _ _⟩
  haveI : IsTrans (String × StatusListEntry) fun first second => first.1.toList ≤ second.1.toList :=
    ⟨fun _ _ _ => le_trans⟩
  exact List.pairwise_map.mpr (List.sorted_insertionSort _ keyed)

/-- Two lists of strings in string order that are permutations of each other are equal. -/
theorem eq_of_perm_of_string_sorted {first second : List String} (perm : first.Perm second)
    (firstSorted : first.Sorted fun first second : String => first.toList ≤ second.toList)
    (secondSorted : second.Sorted fun first second : String => first.toList ≤ second.toList) :
    first = second :=
  haveI : IsAntisymm String fun first second => first.toList ≤ second.toList :=
    ⟨fun _ _ below above => String.ext (le_antisymm below above)⟩
  List.eq_of_perm_of_sorted perm firstSorted secondSorted

/-- The keys `sorted` orders a list's entries by, in whatever order the query returns them:
the decimal strings of the slots without their sign. -/
theorem ListShape.keys_perm_of_perm {txn : Store} {statusList : StatusList}
    (shape : ListShape txn.entries statusList) {keyed : List (String × StatusListEntry)}
    (keys : ∀ key ∈ keyed, key.2.index = .ok key.1)
    (returned : (keyed.map Prod.snd).Perm
      (BaseRecord.query txn [("status_list_id", statusList.id)])) :
    (keyed.map Prod.fst).Perm ((rangeValues 0 statusList.list_size statusList.entry_size).map
      fun listIndex => toString listIndex.natAbs) := by
  let text : String → String := fun id => ((afterLastDash id).toOption).getD ""
  have keyText : keyed.map Prod.fst = (keyed.map Prod.snd).map (text ∘ (·.id)) := by
    rw [List.map_map]
    refine List.map_congr_left fun key member => ?_
    simp only [Function.comp_apply, text]
    rw [show afterLastDash key.2.id = .ok key.1 from keys key member]
    rfl
  have slotText : (rangeValues 0 statusList.list_size statusList.entry_size).map
      (fun listIndex => toString listIndex.natAbs) =
      ((rangeValues 0 statusList.list_size statusList.entry_size).map (entryId statusList.id)).map
        text := by
    rw [List.map_map]
    refine List.map_congr_left fun listIndex _ => ?_
    simp only [Function.comp_apply, text, index_entryId]
    rfl
  rw [keyText, slotText, ← List.map_map]
  refine (returned.map _).map text |>.trans ?_
  rw [query_status_list_id]
  exact shape.ids_perm.map text

/-- The keys `sorted` orders a list's entries by: the decimal strings of the slots without their
sign. -/
theorem ListShape.keys_perm {txn : Store} {statusList : StatusList}
    (shape : ListShape txn.entries statusList) {keyed : List (String × StatusListEntry)}
    (keys : ∀ key ∈ keyed, key.2.index = .ok key.1)
    (entriesEq : keyed.map Prod.snd =
      BaseRecord.query txn [("status_list_id", statusList.id)]) :
    (keyed.map Prod.fst).Perm ((rangeValues 0 statusList.list_size statusList.entry_size).map
      fun listIndex => toString listIndex.natAbs) :=
  shape.keys_perm_of_perm keys (by rw [entriesEq])

/-- The order `sorted` gives the slots of a list: the decimal strings of the slots without their
sign, in string order. -/
def indexOrder (statusList : StatusList) : List String :=
  ((rangeValues 0 statusList.list_size statusList.entry_size).map
    fun listIndex => toString listIndex.natAbs).insertionSort
    fun first second => first.toList ≤ second.toList

theorem indexOrder_sorted (statusList : StatusList) :
    (indexOrder statusList).Sorted fun first second : String => first.toList ≤ second.toList :=
  haveI : IsTotal String fun first second => first.toList ≤ second.toList :=
    ⟨fun _ _ => le_total _ _⟩
  haveI : IsTrans String fun first second => first.toList ≤ second.toList :=
    ⟨fun _ _ _ => le_trans⟩
  List.sorted_insertionSort _ _

/-- The bits the encoding appends for a laid-out list, one per entry: the `k`-th is the status of
the entry whose index comes `k`-th in string order. -/
theorem ListShape.bits_follow_indexOrder {txn : Store} {statusList : StatusList}
    (shape : ListShape txn.entries statusList) {sorrted : List StatusListEntry}
    {bits : List Bool}
    (sorted : sortByIndex (BaseRecord.query txn [("status_list_id", statusList.id)]) =
      .ok sorrted)
    (bitsOk : (sorrted.map (·.status)).mapM statusBit = .ok bits) :
    List.Forall₂ (fun index bit => ∃ entry ∈ txn.entries, entry.status_list_id = statusList.id ∧
        entry.index = .ok index ∧ statusBit entry.status = .ok bit)
      (indexOrder statusList) bits := by
  obtain ⟨keyed, keys, entriesEq, rfl⟩ := sortByIndex_eq_ok sorted
  set order := keyed.insertionSort fun first second => first.1.toList ≤ second.1.toList
  have orderKeys : order.map Prod.fst = indexOrder statusList :=
    eq_of_perm_of_string_sorted (((List.perm_insertionSort _ keyed).map _).trans
        ((shape.keys_perm keys entriesEq).trans (List.perm_insertionSort _ _).symm))
      (keys_insertionSort_sorted keyed) (indexOrder_sorted statusList)
  have statuses := except_mapM_eq_ok.mp bitsOk
  rw [List.map_map, List.forall₂_map_left_iff] at statuses
  rw [← orderKeys, List.forall₂_map_left_iff]
  have inKeyed : ∀ key ∈ order, key ∈ keyed := fun _ member =>
    (List.perm_insertionSort _ keyed).subset member
  refine ((List.forall₂_and_left (p := (· ∈ keyed)) _ _).mpr ⟨inKeyed, statuses⟩).imp
    fun key bit ⟨found, bitOk⟩ => ?_
  obtain ⟨stored, owned⟩ :=
    BaseRecord.mem_query.mp (entriesEq ▸ List.mem_map_of_mem Prod.snd found)
  exact ⟨key.2, stored, (matchesFilter_status_list_id _ _).mp owned, keys key found, bitOk⟩

/-- Every payload a successful publication answers with is for a stored list, named by its
`jti`, and what a verifier reads from it is one bit per slot of the list, then zero bits up to
a whole byte, whatever the list's `entry_size`: the `k`-th bit is the status of the entry
whose index comes `k`-th in string order, `"0", "1", "10", "11", …, "2", …`. -/
theorem published_bits_follow_index_order {allowed : Request → Prop} {sys : System}
    (reachable : Reachable allowed sys) (lib : PublishLibrary) {body : JsonValue}
    {files : List (String × String)} {payloads : List Payload}
    (published : publishStatusList lib sys.store body = (files, .published payloads)) :
    ∀ payload ∈ payloads, ∃ statusList ∈ sys.store.lists,
      payload.jti = "urn:uuid:" ++ statusList.id ∧
      ∃ encoded bits, payload.claims.encodedList? = some encoded ∧
        decodeStatusList lib encoded =
          some (bits ++ List.replicate ((8 - bits.length % 8) % 8) false) ∧
        bits.length = rangeLength 0 statusList.list_size statusList.entry_size ∧
        List.Forall₂ (fun index bit => ∃ entry ∈ sys.store.entries,
            entry.status_list_id = statusList.id ∧ entry.index = .ok index ∧
              statusBit entry.status = .ok bit)
          (indexOrder statusList) bits := by
  obtain ⟨definition_id, issuer_did, publish_format, publish_uri, key, definition, outs, -, -,
    related, rfl, -⟩ := publishStatusList_eq_published published
  intro payload member
  obtain ⟨⟨payload, file⟩, emittedMember, rfl⟩ := List.mem_map.mp member
  obtain ⟨statusList, result, emitted⟩ := exists_of_forall₂ related emittedMember
  have listed := ((reachable.consistent.definition_lists key).2.2 statusList result).1
  have shape := reachable.consistent.list_shape statusList listed
  obtain ⟨encoded, encodedOk, jti, -, encodedList, -⟩ := publishList_eq_ok emitted
  obtain ⟨sorrted, sorted, bits, bitsOk, rfl⟩ := encodeStatusList_eq_ok.mp encodedOk
  have counted : bits.length = rangeLength 0 statusList.list_size statusList.entry_size := by
    rw [← (except_mapM_eq_ok.mp bitsOk).length_eq, List.length_map,
      (sortByIndex_perm sorted).length_eq, shape.length_query]
  exact ⟨statusList, listed, jti, _, bits, encodedList,
    by rw [decodeStatusList_encode, readBits_tobytes], counted,
    shape.bits_follow_indexOrder sorted bitsOk⟩

/-- A definition with `status_size` `1` and `list_size` `11`. -/
def elevenSlots : JsonValue :=
  .object [("status_purpose", .str "revocation"), ("status_size", .int 1), ("list_size", .int 11)]

/-- With eleven slots the index `"10"` sorts between `"1"` and `"2"`: the status `1` of the
entry of slot `10` is published as bit `2`, and bit `10` is `0`. -/
theorem eleven_slots_bits_out_of_order :
    let defined := handle System.initial (.createStatusListDef elevenSlots firstUuid)
    let allocated := handle defined.1
      (.createStatusListEntry (entryRequestBody firstUuid) secondUuid reversal)
    let updated := handle allocated.1 (.updateStatusListEntry secondUuid "10" (.int 1))
    let published := publishStatusList sampleLibrary updated.1.store (publishBody firstUuid)
    Reachable (fun _ => True) updated.1 ∧
      published = (published.1, .published published.2.payloads) ∧
      (∀ payload ∈ published.2.payloads, ∃ statusList ∈ updated.1.store.lists,
        payload.jti = "urn:uuid:" ++ statusList.id ∧
        ∃ encoded bits, payload.claims.encodedList? = some encoded ∧
          decodeStatusList sampleLibrary encoded =
            some (bits ++ List.replicate ((8 - bits.length % 8) % 8) false) ∧
          bits.length = rangeLength 0 statusList.list_size statusList.entry_size ∧
          List.Forall₂ (fun index bit => ∃ entry ∈ updated.1.store.entries,
              entry.status_list_id = statusList.id ∧ entry.index = .ok index ∧
                statusBit entry.status = .ok bit)
            (indexOrder statusList) bits) ∧
      updated.1.store.lists.map indexOrder =
        [["0", "1", "10", "2", "3", "4", "5", "6", "7", "8", "9"]] ∧
      (updated.1.store.entries.find? (·.id == entryId secondUuid 10)).map
        (fun entry => (statusBit entry.status).toOption) = some (some true) ∧
      published.2.encodedLists.map (decodeStatusList sampleLibrary) =
        [some (List.replicate 2 false ++ true :: List.replicate 13 false)] := by
  intro defined allocated updated published
  have reachable : Reachable (fun _ => True) updated.1 :=
    ⟨_, .step (.step (.step .nil trivial (by rintro uid ⟨⟩; decide)) trivial
      (by rintro uid ⟨⟩; decide)) trivial (by rintro uid ⟨⟩)⟩
  have answered : published = (published.1, .published published.2.payloads) := by
    simp only [published, updated, allocated, defined]
    rfl
  exact ⟨reachable, answered,
    published_bits_follow_index_order reachable sampleLibrary answered, by decide, by decide,
    by decide⟩

/-! ## When a publication succeeds -/

/-- The loop over the lists answers with payloads exactly when every list publishes. -/
theorem publishLists_ok_iff
    {publishOne : StatusList → Except PyError (Payload × Option (String × String))}
    (lists : List StatusList) :
    (∃ payloads, (publishLists publishOne lists).2 = .ok payloads) ↔
      ∀ statusList ∈ lists, ∃ out, publishOne statusList = .ok out := by
  induction lists with
  | nil => exact ⟨(fun _ _ member => nomatch member), fun _ => ⟨[], rfl⟩⟩
  | cons statusList rest inductionHypothesis =>
      cases one : publishOne statusList with
      | error cause =>
          simp only [publishLists, one, List.mem_cons, forall_eq_or_imp]
          simp
      | ok out =>
          simp only [publishLists, one, List.mem_cons, forall_eq_or_imp, ← inductionHypothesis]
          constructor
          · rintro ⟨payloads, mapped⟩
            obtain ⟨payloads', rest', -⟩ := except_map_eq_ok.mp mapped
            exact ⟨⟨out, rfl⟩, payloads', rest'⟩
          · rintro ⟨-, payloads, rest'⟩
            exact ⟨_, by rw [rest']; rfl⟩

/-- With a known format and a signer that signs, a list publishes exactly when its entries
encode. -/
theorem publishList_ok_iff {lib : PublishLibrary} {session : Store}
    {definition : StatusListDefinition}
    {definition_id issuer_did publish_format publish_uri : JsonValue} {statusList : StatusList}
    (format : publish_format.isText "ietf" = true ∨ publish_format.isText "w3c" = true)
    (signs : ∀ headers payload, ∃ token, lib.jwt_sign headers payload issuer_did = .ok token)
    (writes : ∀ path jws, lib.file_write path jws = .ok ()) :
    (∃ out, publishList lib session definition definition_id issuer_did publish_format
        publish_uri statusList = .ok out) ↔
      ∃ encoded, encodeStatusList lib
        (BaseRecord.query session [("status_list_id", statusList.id)]) = .ok encoded := by
  have built : ∀ encoded, ∃ headers payload, statusPayload lib definition_id issuer_did
      publish_format definition statusList encoded = .ok (headers, payload) := by
    intro encoded
    unfold statusPayload
    by_cases ietf : publish_format.isText "ietf" = true
    · simp [ietf]
    · simp [ietf, format.resolve_left ietf]
  simp only [publishList]
  cases encodeStatusList lib (BaseRecord.query session [("status_list_id", statusList.id)]) with
  | error cause => simp [except_error_bind]
  | ok encoded =>
      obtain ⟨headers, payload, builtOk⟩ := built encoded
      obtain ⟨token, signed⟩ := signs headers payload
      simp only [except_ok_bind, builtOk, signed]
      split <;> simp [writes]

/-- In a consistent state the encoding of a list's entries succeeds exactly when every entry of
the list holds a bit: every entry has the `index` its sort key reads. -/
theorem Consistent.encodeStatusList_ok_iff {sys : System} (consistent : Consistent sys)
    (lib : PublishLibrary) (statusListId : String) :
    (∃ encoded, encodeStatusList lib
        (BaseRecord.query sys.store [("status_list_id", statusListId)]) = .ok encoded) ↔
      ∀ entry ∈ sys.store.entries, entry.status_list_id = statusListId →
        ∃ bit, statusBit entry.status = .ok bit := by
  have member : ∀ entry, entry ∈ (BaseRecord.query sys.store [("status_list_id", statusListId)] :
      List StatusListEntry) ↔ entry ∈ sys.store.entries ∧ entry.status_list_id = statusListId := by
    intro entry
    simp [query_status_list_id]
  obtain ⟨sorrted, sorted⟩ : ∃ sorrted, sortByIndex
      (BaseRecord.query sys.store [("status_list_id", statusListId)]) = .ok sorrted :=
    sortByIndex_of_indexed fun entry listed => by
      obtain ⟨stored, owned⟩ := (member entry).mp listed
      obtain ⟨owner, ownerListed, ownerId⟩ := consistent.entry_owner entry stored
      obtain ⟨listIndex, -, idEq, -⟩ :=
        (consistent.list_shape owner ownerListed).slot stored ownerId.symm
      exact ⟨_, show afterLastDash entry.id = _ by rw [idEq, index_entryId]⟩
  have perm := sortByIndex_perm sorted
  calc (∃ encoded, encodeStatusList lib
          (BaseRecord.query sys.store [("status_list_id", statusListId)]) = .ok encoded)
      ↔ ∃ bits, (sorrted.map (·.status)).mapM statusBit = .ok bits := by
        simp only [encodeStatusList_eq_ok, sorted, Except.ok.injEq, exists_eq_left']
        exact ⟨fun ⟨_, bits, mapped, _⟩ => ⟨bits, mapped⟩, fun ⟨bits, mapped⟩ => ⟨_, bits, mapped, rfl⟩⟩
    _ ↔ ∀ entry ∈ sorrted, ∃ bit, statusBit entry.status = .ok bit := by
        rw [except_mapM_ok_iff, List.forall_mem_map]
    _ ↔ _ := by
        simp only [perm.mem_iff, member, and_imp]

/-- `publish_status_list` answers with payloads exactly when its loop over the lists does; any
exception is answered `404` or `500`. -/
theorem publishStatusList_published_iff {lib : PublishLibrary} {session : Store}
    {body : JsonValue} {definition_id issuer_did publish_format publish_uri : JsonValue}
    {key : String} {definition : StatusListDefinition}
    (fields : publishFields body = .ok (definition_id, issuer_did, publish_format, publish_uri))
    (loaded : loadDefinition session definition_id = .ok (key, definition)) :
    (∃ payloads, (publishStatusList lib session body).2 = .published payloads) ↔
      ∃ payloads, (publishLists (publishList lib session definition definition_id issuer_did
        publish_format publish_uri) (BaseRecord.query session [("definition_id", key)])).2 =
          .ok payloads := by
  simp only [publishStatusList, fields, loaded]
  split
  · rename_i payloads published
    simp [published]
  · rename_i cause failed
    simp only [failed, notFoundOnBaseError]
    split <;> simp

/-- In every reachable state, a publication of a stored definition in the `ietf` or the `w3c`
format, with a signer that signs and a file system that takes the token files, answers with its
payloads exactly when every entry of every list of the definition holds a bit, `0` or `1`: one
other status, which `update_status_list_entry` stores, makes the publication of all the
definition's lists fail. -/
theorem publication_succeeds_iff {allowed : Request → Prop} {sys : System}
    (reachable : Reachable allowed sys) (lib : PublishLibrary) {body : JsonValue}
    {definition : StatusListDefinition} {issuer_did publish_format publish_uri : JsonValue}
    (fields : publishFields body =
      .ok (.str definition.id, issuer_did, publish_format, publish_uri))
    (stored : definition ∈ sys.store.definitions) (nonempty : definition.id ≠ "")
    (format : publish_format.isText "ietf" = true ∨ publish_format.isText "w3c" = true)
    (signs : ∀ headers payload, ∃ token, lib.jwt_sign headers payload issuer_did = .ok token)
    (writes : ∀ path jws, lib.file_write path jws = .ok ()) :
    (∃ payloads, (publishStatusList lib sys.store body).2 = .published payloads) ↔
      ∀ statusList ∈ sys.store.lists, statusList.definition_id = definition.id →
        ∀ entry ∈ sys.store.entries, entry.status_list_id = statusList.id →
          ∃ bit, statusBit entry.status = .ok bit := by
  have consistent := reachable.consistent
  have retrieved : (BaseRecord.retrieveById sys.store definition.id :
      Except PyError StatusListDefinition) = .ok definition :=
    BaseRecord.retrieveById_of_mem consistent.definitions_nodup stored
  have loaded : loadDefinition sys.store (.str definition.id) = .ok (definition.id, definition) := by
    simp only [loadDefinition, JsonValue.recordKey_str nonempty, except_ok_bind, retrieved]
    rfl
  rw [publishStatusList_published_iff fields loaded, publishLists_ok_iff]
  simp only [publishList_ok_iff format signs writes, consistent.encodeStatusList_ok_iff,
    BaseRecord.mem_query, table_lists, matchesFilter_definition_id, and_imp]

theorem unit_sizes_publication_outcome :
    let defined := handle System.initial (.createStatusListDef unitSizes firstUuid)
    let allocated := handle defined.1
      (.createStatusListEntry (entryRequestBody firstUuid) secondUuid reversal)
    let definition : StatusListDefinition := { unitSizesDefinition with list_cursor := some 0 }
    Reachable (fun _ => True) allocated.1 ∧
      publishFields (publishBody firstUuid) = .ok (.str definition.id, .str "did:web:issuer",
        .str "ietf", .str "/tmp/status") ∧
      definition ∈ allocated.1.store.definitions ∧ definition.id ≠ "" ∧
      ((JsonValue.str "ietf").isText "ietf" = true ∨ (JsonValue.str "ietf").isText "w3c" = true) ∧
      (∀ headers payload, ∃ token,
        sampleLibrary.jwt_sign headers payload (.str "did:web:issuer") = .ok token) ∧
      (∀ path jws, sampleLibrary.file_write path jws = .ok ()) ∧
      ((∃ payloads, (publishStatusList sampleLibrary allocated.1.store
          (publishBody firstUuid)).2 = .published payloads) ↔
        ∀ statusList ∈ allocated.1.store.lists, statusList.definition_id = definition.id →
          ∀ entry ∈ allocated.1.store.entries, entry.status_list_id = statusList.id →
            ∃ bit, statusBit entry.status = .ok bit) := by
  have reachable : Reachable (fun _ => True) (handle (handle System.initial
      (.createStatusListDef unitSizes firstUuid)).1
      (.createStatusListEntry (entryRequestBody firstUuid) secondUuid reversal)).1 :=
    ⟨_, .step (.step .nil trivial (by rintro uid ⟨⟩; decide)) trivial (by rintro uid ⟨⟩; decide)⟩
  have fields : publishFields (publishBody firstUuid) = .ok (.str firstUuid,
      .str "did:web:issuer", .str "ietf", .str "/tmp/status") := rfl
  have stored : { unitSizesDefinition with list_cursor := some 0 } ∈ (handle (handle System.initial
      (.createStatusListDef unitSizes firstUuid)).1
      (.createStatusListEntry (entryRequestBody firstUuid) secondUuid reversal)).1.store.definitions :=
    List.mem_singleton.mpr rfl
  have nonempty : firstUuid ≠ "" := by decide
  have format : (JsonValue.str "ietf").isText "ietf" = true ∨
      (JsonValue.str "ietf").isText "w3c" = true := .inl rfl
  have signs : ∀ headers payload, ∃ token,
      sampleLibrary.jwt_sign headers payload (.str "did:web:issuer") = .ok token :=
    fun _ _ => ⟨"signed", rfl⟩
  have writes : ∀ path jws, sampleLibrary.file_write path jws = .ok () := fun _ _ => rfl
  exact ⟨reachable, fields, stored, nonempty, format, signs, writes,
    publication_succeeds_iff reachable sampleLibrary fields stored nonempty format signs writes⟩

end StatusListPlugin
