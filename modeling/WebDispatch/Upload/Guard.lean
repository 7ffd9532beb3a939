import WebDispatch.Upload.Resolution

/-!
# Guards of uploads

A guard holds a request while it is answered, and releases the parts that are published on the
request when it ends.  It holds no share of them itself: of parts that were taken off the request,
it is for their holders to let go.
-/

namespace WebDispatch

/-- How far the handling of an upload has come. -/
inductive UploadState where
  /-- It was not asked whether the request is multipart. -/
  | unchecked
  /-- The request is not multipart. -/
  | notMultipart
  /-- The parts are there. -/
  | parsed
  /-- The parts were released. -/
  | cleanedUp
  deriving DecidableEq, Repr

namespace UploadState

/-- The name of a state. -/
def name : UploadState → String
  | unchecked => "Unchecked"
  | notMultipart => "NotMultipart"
  | parsed => "Parsed"
  | cleanedUp => "CleanedUp"

end UploadState

namespace Parts

/-- The state of a request with parts. -/
def state (parts : Parts) (storage : Storage) : UploadState :=
  if parts.isReleased storage then .cleanedUp else .parsed

end Parts

/-- Release the parts that are published on a request. -/
def Request.releaseUpload (request : Request) (storage : Storage) : Storage :=
  match request.upload? with
  | some parts => (parts.release storage).2
  | none => storage

/-- Let go of the share that a request holds of the parts that are published on it. -/
def Request.letGoUpload (request : Request) (storage : Storage) : Storage :=
  match request.upload? with
  | some parts => parts.letGo storage
  | none => storage

/-- A request with the upload that was parsed for it. -/
structure UploadGuard where
  /-- The request. -/
  request : Request
  /-- How far the handling of the upload has come. -/
  state : UploadState

namespace UploadGuard

/-- Parse the upload of a request if it is multipart; without a configuration, do not ask. -/
def resolve (config : Option UploadConfig) (request : Request) (storage : Storage) :
    Except Failure UploadGuard × Storage :=
  match config with
  | none => (.ok { request, state := .unchecked }, storage)
  | some config =>
      if config.isMultipart request then
        match config.resolve request storage with
        | (.error failure, storage) => (.error failure, storage)
        | (.ok (request, _), storage) => (.ok { request, state := .parsed }, storage)
      else (.ok { request, state := .notMultipart }, storage)

/-- Release the published parts, once. -/
def cleanup (guard : UploadGuard) (storage : Storage) : UploadGuard × Storage :=
  match guard.state with
  | .parsed => ({ guard with state := .cleanedUp }, guard.request.releaseUpload storage)
  | _ => (guard, storage)

/-- End the guard: clean up unless that was done. -/
def close (guard : UploadGuard) (storage : Storage) : Storage := (guard.cleanup storage).2

end UploadGuard
end WebDispatch
