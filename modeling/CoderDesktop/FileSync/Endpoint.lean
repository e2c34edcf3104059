/-!
# Endpoints of copies

`scp` and `mutagen` are given the two ends of a copy in the same form: a path on this
machine, or a host and a path there.
-/

namespace CoderDesktop.FileSync

/-- A path on this machine, or on a host. -/
inductive Endpoint where
  | localPath (path : String)
  | remotePath (host path : String)
deriving DecidableEq, Repr

namespace Endpoint

/-- The endpoint as the command line names it. -/
def url : Endpoint → String
  | .localPath path => path
  | .remotePath host path => host ++ ":" ++ path

/-- The endpoint is on this machine. -/
def isLocal : Endpoint → Bool
  | .localPath _ => true
  | .remotePath _ _ => false

end Endpoint
end CoderDesktop.FileSync
