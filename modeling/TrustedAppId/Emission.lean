import TrustedAppId.Artifact.BuildVar
import TrustedAppId.Artifact.Header
import TrustedAppId.Script
/-! Emitting an identifier: a fresh one is drawn, and both artifacts are written for it into one
directory. Verifying: both are read back and must carry the expected names and the same identifier.
Nothing is written before names, identifier and directory have been found good. -/
namespace TrustedAppId

/-- Where the artifacts go and what they are called. -/
structure Emission where
  directory : String
  variableName : String
  macroName : String
deriving DecidableEq

/-- The name of the make variable and of the macro, unless another one is asked for. -/
def defaultName : String := "TA_UUID"

namespace Emission

def buildVarFile : String := "uuid.mk"

def headerFile : String := "uuid.h"

def buildVarPath (e : Emission) : String := FileTree.join e.directory buildVarFile

def headerPath (e : Emission) : String := FileTree.join e.directory headerFile

def checkName (name : String) : Except Error Unit :=
  if Identifier.isName name.toList then .ok () else .error (.invalidName name)

def checkNames (e : Emission) : Except Error Unit := do
  checkName e.variableName
  checkName e.macroName

/-- The files of an emission with their texts, in the order in which they are written. -/
def writes (e : Emission) (u : Uuid) : List (String × String) :=
  [(e.buildVarPath, BuildVar.render e.variableName u), (e.headerPath, Header.render e.macroName u)]

/-- The part of the program that these events come from. -/
def logTarget : String := "ta_uuidgen::emit"

def event (level : Level) (message : String) (fields : List (String × String)) : Event :=
  ⟨level, logTarget, message, fields⟩

structure Emitted where
  id : Uuid
  buildVarPath : String
  headerPath : String
deriving DecidableEq

/-- Refuses an identifier unless it is random. -/
def checkRandom (u : Uuid) : Run Uuid := do
  Run.log (event .debug "generated identifier" [("uuid", u.text)])
  if !u.isRandom then
    let version := toString u.version.toNat
    Run.log (event .warn "refusing to emit a non-random UUID"
      [("uuid", u.text), ("version", version)])
    throw (.notRandom u)
  pure u

def drawRandom : Run Uuid := do checkRandom (← Run.draw)

/-- Writes both artifacts of an identifier, if there is a directory for them. -/
def putArtifacts (e : Emission) (u : Uuid) : Run Emitted := do
  if !(← Run.isDirectory e.directory) then throw (.missingOutputDirectory e.directory)
  Run.putFile e.buildVarPath (BuildVar.render e.variableName u)
  Run.log (event .debug "wrote build variable" [("path", e.buildVarPath)])
  Run.putFile e.headerPath (Header.render e.macroName u)
  Run.log (event .debug "wrote header" [("path", e.headerPath)])
  Run.log (event .info "emitted TA identifier" [("uuid", u.text), ("out_dir", e.directory)])
  pure ⟨u, e.buildVarPath, e.headerPath⟩

def emit (e : Emission) : Run Emitted := do
  Run.ofExcept e.checkNames
  let u ← drawRandom
  e.putArtifacts u

/-- Two artifacts agree when they have the expected names and one identifier. -/
def agree (e : Emission) (buildVar header : String × Uuid) : Except Error Uuid :=
  if buildVar.1 ≠ e.variableName then .error (.variableName buildVar.1 e.variableName)
  else if header.1 ≠ e.macroName then .error (.macroName header.1 e.macroName)
  else if buildVar.2 ≠ header.2 then .error (.differentIds buildVar.2 header.2)
  else .ok buildVar.2

def verify (e : Emission) : Run Uuid := do
  Run.ofExcept e.checkNames
  let buildVar ← Run.ofExcept (BuildVar.read (← Run.fileText e.buildVarPath))
  let header ← Run.ofExcept (Header.read (← Run.fileText e.headerPath))
  let u ← Run.ofExcept (e.agree buildVar header)
  Run.log (event .debug "artifacts agree" [("uuid", u.text)])
  pure u

end Emission

end TrustedAppId
