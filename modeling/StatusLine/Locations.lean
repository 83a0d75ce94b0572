import StatusLine.Fault

/-!
# Locations

Where the configuration and the history are kept: under the base directories that the user has set,
as far as they are not empty, or else under the usual places in the home directory.
-/
namespace StatusLine

structure Locations where
  home : Option String
  configBase : Option String
  cacheBase : Option String
  deriving Repr

namespace Locations

def appDirectory : String := "chat-status"

def append (base name : String) : String :=
  if base.toList.getLast? = some '/' then base ++ name else base ++ "/" ++ name

def directory (l : Locations) (base : Option String) (usual : String) : Except Fault String :=
  match base.filter (!·.isEmpty), l.home with
  | some base, _ => .ok (append base appDirectory)
  | none, some home => .ok (append (append home usual) appDirectory)
  | none, none => .error .homeUnknown

def configPath (l : Locations) : Except Fault String :=
  (append · "config.json") <$> l.directory l.configBase ".config"

def historyPath (l : Locations) : Except Fault String :=
  (append · "history.json") <$> l.directory l.cacheBase ".cache"

end Locations
end StatusLine
