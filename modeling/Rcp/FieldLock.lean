import Rcp.Lifecycle

/-! Register locking by state (`lifecycle.c`): who may write which kind of register in which lifecycle state. -/

namespace Rcp

/-- `rcp_lifecycle_field_kind_t`. -/
inductive LifecycleFieldKind where
  | hwGeneric | functionalW | functionalWStar | readOnly
deriving DecidableEq, Repr

/-- `rcp_lifecycle_writer_ctx_t` with all its fields. -/
structure FieldWriterCtx extends WriterCtx where
  viaOwningStream : Bool := false
  viaNonUnicastFrame : Bool := false
deriving DecidableEq, Repr

/-- `rcp_lifecycle_field_writable`. -/
def lifecycleFieldWritable (state : LifecycleState) (kind : LifecycleFieldKind) (writer : FieldWriterCtx) : Bool :=
  let authorized := writer.viaRootClientEp0 || writer.viaOwningStream
  let hwConfiguredAuthorized := authorized || writer.viaDiscoveryStream
  let writable :=
    match kind with
    | .hwGeneric => state == .hwUnconfigured && writer.viaDiscoveryStream
    | .functionalW =>
      match state with
      | .hwUnconfigured => false
      | .rcpConfigured => authorized
      | .hwConfigured => hwConfiguredAuthorized
    | .functionalWStar =>
      match state with
      | .rcpConfigured => false
      | .hwConfigured => hwConfiguredAuthorized
      | .hwUnconfigured => true
    | .readOnly => false
  writable && !writer.viaNonUnicastFrame

/-- The writer `rcp_lifecycle_field_write_error` takes for the most privileged one. -/
def FieldWriterCtx.best : FieldWriterCtx :=
  { viaRootClientEp0 := true, viaOwningStream := true, viaNonUnicastFrame := false, viaDiscoveryStream := true }

/-- `rcp_lifecycle_field_write_error`: a refusal that even the best writer gets is the state's doing. -/
def lifecycleFieldWriteError (state : LifecycleState) (kind : LifecycleFieldKind) (writer : FieldWriterCtx) :
    WireError :=
  if lifecycleFieldWritable state kind writer then .none else
  if !lifecycleFieldWritable state kind .best then .lockedMem else .unauthorizedAccess

/-- `rcp_lifecycle_field_writable_w_plus`: a W+ field has a lock of its own. -/
def lifecycleFieldWritableWPlus (state : LifecycleState) (writer : FieldWriterCtx) (locked : Bool) : Bool :=
  if locked then false else lifecycleFieldWritable state .functionalWStar writer

/-- `rcp_lifecycle_field_write_error_w_plus`. -/
def lifecycleFieldWriteErrorWPlus (state : LifecycleState) (writer : FieldWriterCtx) (locked : Bool) : WireError :=
  if lifecycleFieldWritableWPlus state writer locked then .none else
  if locked then .lockedMem else
  if !lifecycleFieldWritableWPlus state .best false then .lockedMem else .unauthorizedAccess

end Rcp
