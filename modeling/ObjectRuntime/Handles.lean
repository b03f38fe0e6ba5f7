import ObjectRuntime.Request
/-!
# Owned handles

A handle stands for one counted reference.  Making one takes a reference over (`adopt`) or takes a
new one (`borrow`), cloning takes another, and dropping gives one back; a release that fails then
is fatal.
-/

namespace ObjectRuntime.World

variable {κ : Type}

/-- Makes a handle of a reference that the caller owns. -/
def adopt (w : World κ) (i : RuntimeId) (r : Ref) : World κ × Turn κ :=
  let (w, handle) := w.addHandle r i
  (w, .done (.ok (.handle (some handle))))

/-- Takes a new reference and makes a handle of it. -/
def borrow (w : World κ) (i : RuntimeId) (r : Ref) : World κ × Turn κ :=
  match w.retain r with
  | some w => w.adopt i r
  | none => (w, .halt .fault)

/-- The objects of handles that are all held. -/
def handleArgs (w : World κ) (args : List HandleId) : Option (List Pointer) :=
  args.mapM fun h => (w.handle? h).map fun handle => some handle.object

def operateHandle (w : World κ) : HandleOperation → World κ × Turn κ
  | .adopt _ none | .borrow _ none => (w, .done (.ok (.handle none)))
  | .adopt i (some r) => w.adopt i r
  | .borrow i (some r) => w.borrow i r
  | .nil i => w.borrow i (.nil i)
  | .object h =>
    match w.handle? h with
    | some handle => (w, .done (.ok (.object (some handle.object))))
    | none => (w, .halt .fault)
  | .runtime h =>
    match w.handle? h with
    | some handle => (w, .done (.ok (.runtime handle.runtime)))
    | none => (w, .halt .fault)
  | .clone h =>
    match w.handle? h with
    | some handle => w.borrow handle.runtime handle.object
    | none => (w, .halt .fault)
  | .drop h =>
    match w.handle? h with
    | some handle =>
      (w.endHandle h, .next (.on handle.runtime (.release (some handle.object))) .orFatal)
    | none => (w, .halt .fault)
  | .intoPointer h =>
    match w.handle? h with
    | some handle => (w.endHandle h, .done (.ok (.object (some handle.object))))
    | none => (w, .halt .fault)
  | .lookup h name =>
    match w.handle? h with
    | some handle =>
      (w, .next (.on handle.runtime (.lookup (some handle.object) name))
        (.adopt handle.runtime "lookup"))
    | none => (w, .halt .fault)
  | .call h args =>
    match w.handle? h, w.handleArgs args with
    | some handle, some args =>
      (w, .next (.on handle.runtime (.apply (some handle.object) args))
        (.adopt handle.runtime "apply"))
    | _, _ => (w, .halt .fault)
  | .methodCall h name args =>
    match w.handle? h, w.handleArgs args with
    | some handle, some args =>
      (w, .next (.on handle.runtime (.methodCall (some handle.object) name args))
        (.adopt handle.runtime "method_call"))
    | _, _ => (w, .halt .fault)

end ObjectRuntime.World
