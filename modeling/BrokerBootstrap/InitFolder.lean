import BrokerBootstrap.Job

namespace BrokerBootstrap.InitFolder

def pathOf (folder : Path) (artifact : Artifact) : Path := folder.child artifact.fileName

def store (folder : Path) (artifact : Artifact) (content : String) : Job Path := fun fs =>
  let path := pathOf folder artifact
  if path.hasNul then (.abort .nulInPath, fs)
  else
    match fs.write path (Utf8.encode content) with
    | .error cause => (.fail (.unwritable artifact path cause), fs)
    | .ok after => (pure path, after)

def storedText (artifact : Artifact) (content : String) (path : Path) : String :=
  (if artifact.isSensitive then "Information of length " ++ toString content.length
    else "Information " ++ Text.quote content) ++
    " written successfully to file " ++ path.text

def write (folder : Path) (artifact : Artifact) (content : String) : Job Bool := do
  match ← (store folder artifact content).attempt with
  | .error failure =>
      Job.say .error [.plain failure.message]
      return false
  | .ok path =>
      Job.say .success [.plain (storedText artifact content path)]
      return true

end BrokerBootstrap.InitFolder
