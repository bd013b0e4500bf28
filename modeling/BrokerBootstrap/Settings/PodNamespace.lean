import BrokerBootstrap.Settings.Basic
import BrokerBootstrap.Text.Blank
import BrokerBootstrap.Text.Newline
import BrokerBootstrap.Traced

namespace BrokerBootstrap.Settings

def namespaceOfText (text : String) : String :=
  Text.strip (String.ofList (Text.unifyNewlines text.toList))

def unreadableText (settings : Settings) (path : Path) (cause : OpenError) : String :=
  s!"Reading namespace file {settings.namespaceFile} failed: {cause.message path}"

def podNamespace (settings : Settings) (fs : FileSystem) : Traced String :=
  let path := Path.ofText settings.namespaceFile
  if path.hasNul then .abort .nulInPath
  else
    match fs.read path with
    | .error cause => do
        Traced.say .error [.plain (settings.unreadableText path cause)]
        return ""
    | .ok octets =>
        match Utf8.decode octets with
        | .error cause => .abort (.notText cause)
        | .ok text => return namespaceOfText text

end BrokerBootstrap.Settings
