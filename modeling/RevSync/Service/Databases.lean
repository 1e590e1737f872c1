import RevSync.Service.World
import RevSync.Service.Encode
import RevSync.Service.Message
import RevSync.Codec.Hex

/-!
# Database steps

The script steps that open, use and close databases, follow their changes, register resources
with them and touch the files of the script's directory. Each answers a JSON value, or the
store's error when the database refuses.
-/

namespace RevSync

namespace Service

open World

/-- The answer of a step that succeeded with nothing to say. -/
def okJson : Json := .str "ok"

/-- The answer of a store step. -/
def storeResult {α : Type} (f : α → Json) (m : StoreStep α) : Step Json := do
  match ← m.run with
  | .ok a => pure (f a)
  | .error e => pure (storeErrorJson e)

/-- Fails the step when a store operation fails. -/
def orUnreadable {α : Type} (m : StoreStep α) : Step α := do
  match ← m.run with
  | .ok a => pure a
  | .error _ => StateT.lift unreadable

/-- Lifts a read into a step. -/
def reading {α : Type} (r : Read α) : Step α := StateT.lift r

/-- The handle named by a field. -/
def handleAt (s : Json) (key : String) : Step Nat := do handle (← reading (text s key))

/-- How a directory under the script's directory is written in messages. -/
def shownPath (dir : String) : String := "$DIR/" ++ dir

/-- The configuration of a persistent database; unlike the library's default, it does not sync
on commit unless asked to. -/
def readStoreConfig (c : Option Json) : Read StoreConfig := do
  let base : StoreConfig := { syncOnCommit := false }
  match c with
  | none => pure base
  | some c =>
    let createIfMissing ← flag c "create_if_missing" base.createIfMissing
    let errorIfExists ← flag c "error_if_exists" base.errorIfExists
    let syncOnCommit ← flag c "sync_on_commit" base.syncOnCommit
    let maxRevisionHistory ← (·.getD base.maxRevisionHistory) <$> nat? c "max_revision_history"
    pure { createIfMissing, errorIfExists, syncOnCommit, maxRevisionHistory }

/-- A database's name, last sequence and document count. -/
def summaryFields (d : Database) : List (String × Json) :=
  [("name", .str d.name), ("last_sequence", Json.ofNat d.state.lastSequence),
    ("document_count", Json.ofNat d.state.documentCount)]

/-- Opens a database under a key. -/
def openStep (s : Json) : Step Json := do
  let key ← reading (text s "db")
  if !(← reading (flag s "persistent" false)) then
    let name ← reading ((·.getD key) <$> text? s "name")
    let h ← orUnreadable (onHost (Host.openInMemory name))
    bind key h
    pure (Json.object (summaryFields (← database h)))
  else
    let dir ← reading ((·.getD key) <$> text? s "dir")
    let config ← match ← reading (text? s "api") with
      | none => reading (readStoreConfig (field? s "config"))
      | some "open" => pure {}
      | some _ => reading unreadable
    match ← (onHost (Host.openDir dir (shownPath dir) config)).run with
    | .ok h =>
      bind key h
      pure (Json.object (summaryFields (← database h)))
    | .error e => pure (storeErrorJson e)

/-- Closes and lets go of a persistent database, then opens its directory again. -/
def reopenStep (s : Json) : Step Json := do
  let key ← reading (text s "db")
  let h ← handle key
  let old ← database h
  let some dir := old.location | reading unreadable
  let _ ← (close h).run
  let _ ← unbind key
  match ← (onHost (Host.openDir dir (shownPath dir) old.config)).run with
  | .ok h' =>
    bind key h'
    let d ← database h'
    pure (Json.object (summaryFields d ++ [("same_uuid", .bool (d.state.uuid == old.state.uuid))]))
  | .error e => pure (storeErrorJson e)

/-- Closes a database and removes its directory. -/
def deleteStep (s : Json) : Step Json := do
  let h ← handleAt s "db"
  let r ← storeResult (fun _ => okJson) (do close h; onHost (Host.removeDir h))
  let d ← database h
  let files := (← get).host.files
  pure (Json.object [("result", r), ("is_open", .bool d.isOpen),
    ("dir_exists", Json.ofOption (fun dir => .bool (files.exists? dir)) d.location)])

/-- What a database is. -/
def infoStep (s : Json) : Step Json := do
  let h ← handleAt s "db"
  let d ← database h
  let w ← get
  pure (Json.object (summaryFields d ++ [("is_open", .bool d.isOpen),
    ("active_resources", Json.ofNat (d.registry.liveCount w.alive)),
    ("persistent", .bool d.persistent)]))

/-- A revision id, or `$current` for the current revision of a document. -/
def revisionIdOrCurrent (h : Nat) (docId : String) (v : Json) : Step RevisionId := do
  match v with
  | .str "$current" =>
    match ← orUnreadable (onHost (Host.current? h docId)) with
    | some r => pure r.revId
    | none => reading unreadable
  | v => reading (asRevisionId v)

/-- A revision named by a spec: the current revision of a document of some database, or a new
child of it; or one written out, whose missing id derives from its parent. -/
def revisionSpec (v : Json) : Step Revision := do
  match ← reading (text? v "from") with
  | some from_ =>
    let h ← handle from_
    let id ← reading (text v "id")
    let some cur ← orUnreadable (onHost (Host.current? h id)) | reading unreadable
    match field? v "child" with
    | none => pure cur
    | some c =>
      let body ← reading ((·.getD []) <$> optional c "body" asFields)
      let deleted ← reading (flag c "deleted" false)
      let sequence ← reading ((·.getD 0) <$> nat? c "sequence")
      let revId := RevisionId.derive (some cur.revId) deleted body
      pure { docId := cur.docId, revId, history := cur.lineage, deleted, body, sequence }
  | none =>
    let docId ← reading (text v "doc_id")
    let parent ← reading (optional v "parent" asRevisionId)
    let deleted ← reading (flag v "deleted" false)
    let body ← reading ((·.getD []) <$> optional v "body" asFields)
    let revId ← match ← reading (optional v "rev_id" asRevisionId) with
      | some r => pure r
      | none => pure (RevisionId.derive parent deleted body)
    let history ← match ← reading (optional v "history" fun h => do (← asList h).mapM asRevisionId) with
      | some hs => pure hs
      | none => pure parent.toList
    let sequence ← reading ((·.getD 0) <$> nat? v "sequence")
    pure { docId, revId, history, deleted, body, sequence }

/-- The concurrency control a save asks for. -/
def readConcurrency (s : Json) : Read Concurrency := do
  match ← text? s "concurrency" with
  | none | some "lww" => pure .lastWriteWins
  | some "fail" => pure .failOnConflict
  | some _ => unreadable

/-- Saves a document given in one of the body forms. -/
def saveStep (s : Json) : Step Json := do
  let h ← handleAt s "db"
  let id ← reading (text s "id")
  let c ← reading (readConcurrency s)
  let body ← reading ((·.getD []) <$> optional s "body" asFields)
  let doc : StoreStep Document :=
    match s.get? "value" with
    | some value => match Document.ofJson id value with
      | .ok d => pure d
      | .error e => throw e
    | none => do
      if ← StateT.lift (ExceptT.lift (flag s "from_current" false)) then
        let removed ← StateT.lift (ExceptT.lift ((·.getD []) <$> optional s "remove" texts))
        let cur ← onHost (Host.get? h id)
        let d := body.foldl (fun d (k, v) => d.set k v) (cur.getD { id })
        pure (removed.foldl Document.remove d)
      else
        let deleted ← StateT.lift (ExceptT.lift (flag s "deleted" false))
        match ← StateT.lift (ExceptT.lift (optional s "rev" asRevisionId)) with
        | some revId =>
          let r : Revision := { docId := id, revId, history := [], deleted, body, sequence := 0 }
          pure (Document.ofRevision r)
        | none => pure { id, deleted, properties := body }
  storeResult documentJson (do onHost (Host.save h (← doc) c))

/-- What applying a peer's revision did. -/
def applyOutcomeJson : ApplyOutcome → Json
  | .inserted d => Json.object [("outcome", .str "Inserted"), ("doc", documentJson d)]
  | .fastForwarded d => Json.object [("outcome", .str "FastForwarded"), ("doc", documentJson d)]
  | .alreadyKnown => Json.object [("outcome", .str "AlreadyKnown")]
  | .conflict l => Json.object [("outcome", .str "Conflict"), ("local", revisionJson l)]

/-- Stores a resolution of a conflict. -/
def saveResolvedStep (s : Json) : Step Json := do
  let h ← handleAt s "db"
  let remote ← revisionSpec (← reading (field s "remote"))
  let expected ← revisionIdOrCurrent h remote.docId (← reading (field s "expected"))
  let resolution ← match ← reading (field s "resolution") with
    | .str "remote" => pure Resolution.remote
    | r => do
      let m ← reading (field r "merged")
      let body ← reading ((·.getD []) <$> optional m "body" asFields)
      let deleted ← reading (flag m "deleted" false)
      let id ← reading ((·.getD remote.docId) <$> text? m "id")
      pure (Resolution.merged { id, deleted, properties := body })
  storeResult documentJson (onHost (Host.saveResolved h expected remote resolution))

/-- Changes a checkpoint as a step asks. -/
def updateCheckpointStep (s : Json) : Step Json := do
  let h ← handleAt s "db"
  let cp ← reading (text s "cp")
  let pull ← reading (nat? s "pull_sequence")
  let raise ← reading (nat? s "raise_pull_sequence")
  let known ← reading ((·.getD []) <$> optional s "known" asList)
  let marks ← known.mapM fun pair => do
    match pair with
    | .arr [doc, rev] =>
      let doc ← reading (asText doc)
      pure (doc, ← revisionIdOrCurrent h doc rev)
    | _ => reading unreadable
  let change (c : Checkpoint) : Checkpoint :=
    let c := match pull with
      | some p => { c with pullSequence := p }
      | none => c
    let c := match raise with
      | some p => { c with pullSequence := max c.pullSequence p }
      | none => c
    marks.foldl (fun c (doc, rev) => c.markKnown doc rev) c
  storeResult checkpointJson (onHost (Host.updateCheckpoint h cp change))

/-- Subscribes to a database's changes under a name; a subscription of the same name is let
go of. -/
def subscribeStep (s : Json) : Step Json := do
  let h ← handleAt s "db"
  let name ← reading (text s "sub")
  let c ← orUnreadable (onHost (Host.subscribe h))
  match (← get).subscriptions.get? name with
  | some old => hostQuiet (Host.dropReceiver old)
  | none => pure ()
  modify fun w => { w with subscriptions := w.subscriptions.insert name c }
  pure okJson

/-- Everything queued for a subscription. -/
def eventsStep (s : Json) : Step Json := do
  let name ← reading (text s "sub")
  let some c := (← get).subscriptions.get? name | reading unreadable
  let (events, closed) ← orUnreadable (onHost (Host.drain c))
  pure (Json.object [("events", .arr (events.map changeJson)), ("closed", .bool closed)])

/-- Ends a subscription; whether it existed. -/
def unsubscribeStep (s : Json) : Step Json := do
  let name ← reading (text s "sub")
  match (← get).subscriptions.get? name with
  | some c =>
    hostQuiet (Host.dropReceiver c)
    modify fun w => { w with subscriptions := w.subscriptions.erase name }
    pure (.bool true)
  | none => pure (.bool false)

/-- The resource under a name, made on first use. -/
def probeNamed (name : String) (selfUnregister : Bool) : Step Nat := do
  let w ← get
  match w.probeNames.get? name with
  | some i => pure i
  | none =>
    let i := w.probes.size
    let actor ← addActor (.probe i)
    let p : Probe := { selfUnregister, actor }
    modify fun w => { w with probes := w.probes.push p, probeNames := w.probeNames.insert name i }
    pure i

/-- Registers a resource with a database. -/
def registerStep (s : Json) : Step Json := do
  let h ← handleAt s "db"
  let name ← reading (text s "res")
  let selfUnregister ← reading (flag s "self_unregister" false)
  let i ← probeNamed name selfUnregister
  storeResult (fun _ => okJson) do
    let actor := ((← get).probes.getD i default).actor
    let token ← onHost (Host.register h actor)
    modify fun w => { w with probes := w.probes.modify i fun p =>
      { p with registrations := (h, token) :: p.registrations } }

/-- Takes back a resource's newest registration. -/
def unregisterStep (s : Json) : Step Json := do
  let name ← reading (text s "res")
  let some i := (← get).probeNames.get? name | pure (.str "not_registered")
  match ((← get).probes.getD i default).registrations with
  | (h, token) :: rest =>
    modify fun w => { w with probes := w.probes.modify i fun p => { p with registrations := rest } }
    hostQuiet (do let _ ← Host.unregister h token)
    pure okJson
  | [] => pure (.str "not_registered")

/-- Lets go of a resource; whether it was still held. -/
def dropResourceStep (s : Json) : Step Json := do
  let name ← reading (text s "res")
  let some i := (← get).probeNames.get? name | pure (.bool false)
  let held := ((← get).probes.getD i default).held
  modify fun w => { w with probes := w.probes.modify i fun p => { p with held := false } }
  pure (.bool held)

/-- How often a resource was stopped. -/
def stopsStep (s : Json) : Step Json := do
  let name ← reading (text s "res")
  let some i := (← get).probeNames.get? name | reading unreadable
  pure (Json.ofNat ((← get).probes.getD i default).stops)

/-- Runs a file operation on the script's directory. -/
def onFiles (f : Files → Except IoError Files) : Step Bool := do
  let w ← get
  match f w.host.files with
  | .ok fs =>
    set { w with host := { w.host with files := fs } }
    pure true
  | .error _ => pure false

/-- The bytes a step writes: its `text` or its `hex`. -/
def contentOf (s : Json) : Read ByteArray := do
  match ← text? s "text" with
  | some t => pure t.toUTF8
  | none => need (Hex.decode (← text s "hex"))

/-- The answer of a file step. -/
def fileResult (done : Bool) : Json := if done then okJson else errorJson "Io" none

/-- The file steps. -/
def fileStep (op : String) (s : Json) : Option (Step Json) :=
  match op with
  | "mkdir" => some do
    let path ← reading (text s "path")
    fileResult <$> onFiles (·.createDirAll path)
  | "write_file" => some do
    let path ← reading (text s "path")
    let data ← reading (contentOf s)
    fileResult <$> onFiles fun fs => do (← fs.createDirAll (Files.parent path)).write path data
  | "write_snapshot" => some do
    let dir ← reading (text s "dir")
    let data ← reading (need (Hex.decode (← reading (text s "hex"))))
    fileResult <$> onFiles fun fs => do
      (← fs.createDirAll dir).write (Files.join dir "SNAPSHOT") data
  | "copy_file" => some do
    let source ← reading (text s "from")
    let target ← reading (text s "to")
    .bool <$> onFiles fun fs => do fs.write target (← fs.read source)
  | "list_dir" => some do
    let path ← reading (text s "path")
    match (← get).host.files.list path with
    | .ok names => pure (.arr (names.map .str))
    | .error _ => pure .null
  | _ => none

/-- The database steps. -/
def databaseStep (op : String) (s : Json) : Option (Step Json) :=
  match op with
  | "open" => some (openStep s)
  | "reopen" => some (reopenStep s)
  | "drop" => some do .bool <$> unbind (← reading (text s "db"))
  | "close" => some do
    let h ← handleAt s "db"
    storeResult (fun _ => okJson) (close h)
  | "close_in" => some do
    let h ← handleAt s "db"
    let mode ← match ← reading (text s "runtime") with
      | "current_thread" => pure StopMode.detach
      | "none" => pure StopMode.wait
      | _ => reading unreadable
    storeResult (fun _ => okJson) (close h mode)
  | "delete_db" => some (deleteStep s)
  | "info" => some (infoStep s)
  | "same_uuid" => some do
    let a ← handleAt s "a"
    let b ← handleAt s "b"
    pure (.bool ((← database a).state.uuid == (← database b).state.uuid))
  | "save" => some (saveStep s)
  | "delete" => some do
    let h ← handleAt s "db"
    let id ← reading (text s "id")
    storeResult documentJson (onHost (Host.delete h id))
  | "purge" => some do
    let h ← handleAt s "db"
    let id ← reading (text s "id")
    storeResult (fun _ => okJson) (onHost (Host.purge h id))
  | "get" => some do
    let h ← handleAt s "db"
    let id ← reading (text s "id")
    storeResult (Json.ofOption documentJson) (onHost (Host.get? h id))
  | "rev" => some do
    let h ← handleAt s "db"
    let id ← reading (text s "id")
    storeResult (Json.ofOption revisionJson) (onHost (Host.current? h id))
  | "ids" => some do
    let h ← handleAt s "db"
    storeResult (fun ids => .arr (ids.map .str)) (onHost (Host.documentIds h))
  | "count" => some do
    let h ← handleAt s "db"
    pure (Json.ofNat (← database h).state.documentCount)
  | "last_seq" => some do
    let h ← handleAt s "db"
    pure (Json.ofNat (← database h).state.lastSequence)
  | "changes" => some do
    let h ← handleAt s "db"
    let since ← reading ((·.getD 0) <$> nat? s "since")
    let limit ← reading ((·.getD 1000) <$> nat? s "limit")
    storeResult (fun rs => .arr (rs.map revisionJson)) (onHost (Host.changesSince h since limit))
  | "apply" => some do
    let h ← handleAt s "db"
    let r ← revisionSpec (← reading (field s "rev"))
    storeResult applyOutcomeJson (onHost (Host.apply h r))
  | "save_resolved" => some (saveResolvedStep s)
  | "checkpoint" => some do
    let h ← handleAt s "db"
    let cp ← reading (text s "cp")
    storeResult checkpointJson (onHost (Host.checkpoint h cp))
  | "update_checkpoint" => some (updateCheckpointStep s)
  | "reset_checkpoint" => some do
    let h ← handleAt s "db"
    let cp ← reading (text s "cp")
    storeResult (fun _ => okJson) (onHost (Host.resetCheckpoint h cp))
  | "peer_checkpoint" => some do
    let h ← handleAt s "db"
    let cp ← reading (text s "cp")
    storeResult (Json.ofOption Json.ofNat) (onHost (Host.peerCheckpoint h cp))
  | "set_peer_checkpoint" => some do
    let h ← handleAt s "db"
    let cp ← reading (text s "cp")
    let sequence ← reading (natUpTo s "sequence" u64Max)
    storeResult (fun _ => okJson) (onHost (Host.setPeerCheckpoint h cp sequence))
  | "unsynced" => some do
    let h ← handleAt s "db"
    let cp ← reading (text s "cp")
    storeResult (fun rs => .arr (rs.map revisionJson)) (onHost (Host.unsynced h cp))
  | "unsynced_one" => some do
    let h ← handleAt s "db"
    let cp ← reading (text s "cp")
    let id ← reading (text s "id")
    storeResult (Json.ofOption revisionJson) (onHost (Host.unsyncedOne h cp id))
  | "subscribe" => some (subscribeStep s)
  | "events" => some (eventsStep s)
  | "unsubscribe" => some (unsubscribeStep s)
  | "register" => some (registerStep s)
  | "unregister" => some (unregisterStep s)
  | "drop_resource" => some (dropResourceStep s)
  | "stops" => some (stopsStep s)
  | "active_count" => some do
    let h ← handleAt s "db"
    let d ← database h
    pure (Json.ofNat (d.registry.liveCount (← get).alive))
  | "db_debug" => some do
    let h ← handleAt s "db"
    let d ← database h
    pure (Json.object [("debug", .str d.describe), ("config", .str d.config.describe)])
  | _ => fileStep op s

end Service

end RevSync
