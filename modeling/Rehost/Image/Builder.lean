import Rehost.Image.Naming
import Rehost.Undo
import Rehost.Time
/-!
# Building and managing images

An image is built from an archive in a build directory below the work
directory: the archive is linked (or copied) in, the build file written next
to it, and the engine builds with the directory as context. The build
directory is removed whatever the outcome, once it was created.

The other operations ask the engine about images: the id of a reference,
whether it exists, the references of a namespace, and the facts of one
image. Removing an image that is already gone is not a failure.
-/

namespace Rehost.Image

open Host

/-- The engine program, the namespace of built images and the engine name. -/
structure Builder where
  podman : String := "podman"
  ns : String := "vmclone"
  engine : String := "podman"
  deriving Repr, Inhabited, DecidableEq

/-- A built image: its id, its tag and its cleanup. -/
structure Built where
  id : String
  tag : String
  cleanup : RunCleanup
  deriving Inhabited

/-- The directory below the work directory that holds build contexts. -/
def buildDir : String := "build"

/-- The id template of an inspection. -/
def idFormat : String := "\x7b\x7b.Id\x7d\x7d"

/-- The template of an image report: `id|created|size`. -/
def infoFormat : String := "\x7b\x7b.Id\x7d\x7d|\x7b\x7b.Created\x7d\x7d|\x7b\x7b.Size\x7d\x7d"

/-- The template of an image listing. -/
def listFormat : String := "\x7b\x7b.Repository\x7d\x7d:\x7b\x7b.Tag\x7d\x7d"

/-- A failure of the build stage. -/
def buildFailure (detail : String) : Failure := .stage .buildImage .imageBuildFailed detail

variable {σ : Type}

/-- Puts the archive into the build context under its own name: a hard link
    when one can be made, a copy otherwise. -/
def addArchive (ctx archive : Path) : Act σ String := do
  let name ← match archive.fileName? with
    | some n => pure (Utf8.toText n)
    | none => throw (buildFailure ("invalid archive path " ++ archive.display))
  let dest := ctx.push name
  let m ← Act.host get
  let linked : Bool := match m.fs.lstat m.cwd archive, m.fs.lstat m.cwd dest with
    | .ok (_, .dir _), _ => false
    | .ok _, .error .noEnt => true
    | _, _ => false
  if linked then
    match m.fs.lstat m.cwd archive, m.fs.resolve m.cwd dest false with
    | .ok (_, node), .ok (.absent dir n) =>
      Act.host (Machine.setFs (m.fs.put (dir ++ [n]) node))
      return name
    | _, _ => pure ()
  let copied ← Act.host (do
    match ← FileOps.stat archive with
    | .error e => pure (Except.error e)
    | .ok (_, .file d _) => FileOps.writeBytes dest d
    | .ok _ => pure (Except.error (IoError.other
        "the source path is neither a regular file nor a symlink to a regular file")))
  match copied with
  | .ok () => return name
  | .error e =>
    throw (buildFailure ("failed to copy " ++ archive.display ++ " into build context: " ++ e.message))

/-- Writes the build file into the context. -/
def writeBuildFile (ctx : Path) (content : String) : Act σ Unit := do
  if !(← Act.host (FileOps.isDir ctx)) then
    throw (buildFailure ("failed to create Containerfile: No such file or directory (os error 2)"))
  let path := ctx.push buildFileName
  match ← Act.host (FileOps.lstat path) with
  | .ok (_, .dir _) => throw (buildFailure "failed to persist Containerfile: Is a directory (os error 21)")
  | .ok _ => let _ ← Act.host (FileOps.removeFile path)
  | .error _ => pure ()
  let _ ← Act.ofIo (FileOps.writeBytes path content.toUTF8) fun e =>
    buildFailure ("failed to write Containerfile: " ++ e.message)

namespace Builder

/-- Runs the engine. -/
def call (b : Builder) (r : Runner σ) (args : List String) : Act σ CommandOutput :=
  Act.host (r.call b.podman args)

/-- The id of an image reference. -/
def imageId (b : Builder) (r : Runner σ) (reference : String) : Act σ String := do
  let o ← b.call r ["inspect", "--format", idFormat, reference]
  let o ← Act.check o .buildImage .imageBuildFailed "podman inspect"
  let id := o.stdoutTrimmed
  if id.isEmpty then throw (buildFailure ("no image ID reported for " ++ reference))
  return id

/-- Builds an image of a machine from an archive. -/
def buildImage (b : Builder) (r : Runner σ) (archive : Path) (vm : String) (workDir : Path) : Act σ Built := do
  let now ← Act.host (Machine.wallNanos (σ := σ))
  let tag := Image.tag b.ns vm (Time.Instant.ofNanos now).compact
  let ctx := workDir.push buildDir
  let _ ← Act.ofIo (FileOps.createDirAll ctx) fun e =>
    buildFailure ("failed to create " ++ ctx.display ++ ": " ++ e.message)
  let inContext : Act σ String := do
    let name ← addArchive ctx archive
    writeBuildFile ctx (buildFile name b.engine)
    let dir ← Block.pathText ctx .buildImage .imageBuildFailed
    let o ← b.call r ["build", "--tag", tag, "--file", buildFileName, "--format", "oci", "--quiet", dir]
    let o ← Act.check o .buildImage .imageBuildFailed "podman build"
    match idOfBuildOutput o.stdout with
    | some id => pure id
    | none => b.imageId r tag
  let result ← Act.attempt inContext
  let _ ← Act.host (FileOps.removeDirAllIfExists ctx)
  match result with
  | .error e => throw e
  | .ok id =>
    return { id := id, tag := tag,
             cleanup := Cleanup.armed ("remove image " ++ tag) (.removeImage b.podman tag) }

/-- Removes an image; one that is already gone is fine. -/
def removeImage (b : Builder) (r : Runner σ) (reference : String) : Act σ Unit := do
  let o ← b.call r ["rmi", "--force", reference]
  if o.isSuccess || isMissingMessage o.diagnostics then return ()
  Act.stageFail .cleanup .imageBuildFailed ("podman rmi " ++ reference ++ " failed: " ++ o.diagnostics)

/-- Whether an image exists. -/
def imageExists (b : Builder) (r : Runner σ) (reference : String) : Act σ Bool := do
  let o ← b.call r ["image", "exists", reference]
  if o.code == 0 && !o.notFound then return true
  if o.code == 1 then return false
  throw (buildFailure ("podman image exists " ++ reference ++ " failed: " ++ o.diagnostics))

/-- The references of the images, optionally filtered. -/
def listImages (b : Builder) (r : Runner σ) (filter : Option String) : Act σ (List String) := do
  let extra := match filter with
    | some f => if f.isEmpty then [] else ["--filter", "reference=" ++ f]
    | none => []
  let o ← b.call r (["images", "--format", listFormat] ++ extra)
  let o ← Act.check o .buildImage .imageBuildFailed "podman images"
  return ((Text.lines o.stdout).map Text.trim).filter (!·.isEmpty)

/-- The facts the engine reports of an image. -/
def inspectImage (b : Builder) (r : Runner σ) (reference : String) : Act σ Info := do
  let o ← b.call r ["inspect", "--format", infoFormat, reference]
  let o ← Act.check o .buildImage .imageBuildFailed "podman inspect"
  match Info.parse reference o.stdout with
  | some i => return i
  | none => throw (buildFailure ("unexpected inspect output for " ++ reference))

end Builder

end Rehost.Image
