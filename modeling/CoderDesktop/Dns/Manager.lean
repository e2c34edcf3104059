import Mathlib.Logic.Function.Basic
import CoderDesktop.Collections.Infix
import CoderDesktop.Encoding.Utf8

/-!
# The DNS manager of the helper

`dns.Manager` with its three backends, and the step of `startTunnel` that configures DNS.
Go strings are byte strings. How file accesses and commands end is an input; a write that
fails has truncated the file and written a part of the content, or has not opened it.
-/

namespace CoderDesktop.Dns

open Collections Encoding

/-- The bytes of a file. -/
abbrev Text := List UInt8

/-- The bytes of a constant. -/
def text (constant : String) : Text := Utf8.encode constant.toList

/-! ## The host -/

/-- What systemd-resolved keeps of an interface. -/
structure LinkDns where
  servers : List Text
  domains : List Text
deriving DecidableEq, Repr

/-- The files, interfaces and resolvconf records the manager touches. -/
structure Host where
  files : String → Option Text
  /-- The interfaces that exist. -/
  links : String → Option LinkDns
  /-- The records of resolvconf. -/
  records : String → Option Text

/-- How a write fails: the file was not opened, or some bytes were written to it. -/
inductive WriteFault where
  | notOpened (error : String)
  | torn (count : Nat) (error : String)
deriving DecidableEq, Repr

/-- The error text of a failed write. -/
def WriteFault.error : WriteFault → String
  | .notOpened error | .torn _ error => error

/-- A command failed, with its error and its output. -/
structure CommandFault where
  error : String
  output : String
deriving DecidableEq, Repr

/-- The end of a `resolvconf` command: it may rewrite `/etc/resolv.conf`. -/
abbrev ResolvconfOutcome := Except CommandFault (Option Text)

namespace Host

variable (host : Host)

/-- A file is written, or removed with `none`. -/
def setFile (path : String) (content : Option Text) : Host :=
  { host with files := Function.update host.files path content }

/-- `os.ReadFile`; the error tells whether it is `os.ErrNotExist`. -/
def readFile (path : String) (fault : Option String) : Except (Bool × String) Text :=
  match fault with
  | some error => .error (false, error)
  | none =>
      match host.files path with
      | some content => .ok content
      | none => .error (true, "open " ++ path ++ ": no such file or directory")

/-- `os.WriteFile` -/
def writeFile (path : String) (content : Text) : Option WriteFault → Host
  | none => host.setFile path (some content)
  | some (.notOpened _) => host
  | some (.torn count _) => host.setFile path (some (content.take count))

/-- `tunDev.Close()`: the interface goes, and what was kept of it. -/
def closeTun (ifName : String) : Host :=
  { host with links := Function.update host.links ifName none }

end Host

/-! ## The manager -/

/-- How the DNS settings are applied. -/
inductive Backend where
  | resolvconf
  | resolvectl
  | directFile
deriving DecidableEq, Repr

/-- The DNS manager of one interface. -/
structure Manager where
  ifName : String
  backend : Backend
  /-- Empty, or set when `/etc/resolv.conf` has been backed up. -/
  backupPath : String
deriving DecidableEq, Repr

/-- `NewManager`, and which tools `exec.LookPath` finds. -/
def Manager.new (ifName : String) (resolvconf resolvectl : Bool) : Manager where
  ifName := ifName
  backend := if resolvconf then .resolvconf else if resolvectl then .resolvectl else .directFile
  backupPath := ""

/-- The resolver's configuration file. -/
def resolvConfPath : String := "/etc/resolv.conf"
/-- Where the manager keeps the file it found. -/
def resolvConfBackup : String := "/etc/resolv.conf.coder-backup"
/-- The line that opens the manager's own lines. -/
def managedBlockHeader : Text := text "# BEGIN coder-desktop managed block"
/-- The line that closes them. -/
def managedBlockFooter : Text := text "# END coder-desktop managed block"

/-- The line feed that ends a line. -/
def newline : UInt8 := 10

/-- `strings.Join` with a space -/
def joined (words : List Text) : Text := (words.intersperse (text " ")).flatten

/-- The lines both text backends write. -/
def directives (nameservers searchDomains : List Text) : Text :=
  (nameservers.flatMap fun ns => text "nameserver " ++ ns ++ [newline]) ++
    if searchDomains ≠ [] then text "search " ++ joined searchDomains ++ [newline] else []

/-- The block `configureDirectFile` writes, with its line ends. -/
def managedBlock (nameservers searchDomains : List Text) : Text :=
  managedBlockHeader ++ [newline] ++ directives nameservers searchDomains ++
    managedBlockFooter ++ [newline]

/-- How the accesses of `Configure` end. -/
structure ConfigureOutcome where
  resolvconf : ResolvconfOutcome
  dns : Option CommandFault
  domain : Option CommandFault
  read : Option String
  backup : Option WriteFault
  write : Option WriteFault

/-- How the accesses of `Teardown` end. -/
structure TeardownOutcome where
  resolvconf : ResolvconfOutcome
  revert : Option CommandFault
  read : Option String
  write : Option WriteFault
  /-- The result of `os.Remove`, which is not looked at. -/
  removed : Bool

/-- The manager and the host afterwards, and the error that is returned. -/
structure Result where
  manager : Manager
  host : Host
  error : Option String

namespace Manager

variable (m : Manager) (nameservers searchDomains : List Text)

/-- `configureResolvconf`: the record is set and resolvconf writes `/etc/resolv.conf`. -/
def configureResolvconf (outcome : ResolvconfOutcome) (host : Host) : Result :=
  match outcome with
  | .error fault => ⟨m, host, some ("resolvconf -a: " ++ fault.error ++ ": " ++ fault.output)⟩
  | .ok resolvConf =>
      ⟨m, { host.setFile resolvConfPath resolvConf with
            records := Function.update host.records ("tun." ++ m.ifName)
              (some (directives nameservers searchDomains)) }, none⟩

/-- `teardownResolvconf`: the record is deleted and resolvconf writes `/etc/resolv.conf`. -/
def teardownResolvconf (outcome : ResolvconfOutcome) (host : Host) : Result :=
  match outcome with
  | .error fault => ⟨m, host, some ("resolvconf -d: " ++ fault.error ++ ": " ++ fault.output)⟩
  | .ok resolvConf =>
      ⟨m, { host.setFile resolvConfPath resolvConf with
            records := Function.update host.records ("tun." ++ m.ifName) none }, none⟩

/-- A command of `resolvectl` changes what is kept of the interface, if it exists. -/
def resolvectl (change : LinkDns → LinkDns) (host : Host) : Host :=
  { host with
    links := Function.update host.links m.ifName ((host.links m.ifName).map change) }

/-- `configureResolvectl`: the servers are set first, then the domains. -/
def configureResolvectl (dns domain : Option CommandFault) (host : Host) : Result :=
  match dns with
  | some fault => ⟨m, host, some ("resolvectl dns: " ++ fault.error ++ ": " ++ fault.output)⟩
  | none =>
      let served := m.resolvectl (fun link => { link with servers := nameservers }) host
      match domain with
      | some fault =>
          ⟨m, served, some ("resolvectl domain: " ++ fault.error ++ ": " ++ fault.output)⟩
      | none =>
          ⟨m, m.resolvectl (fun link =>
              { link with domains := searchDomains.map fun d => text "~" ++ d }) served, none⟩

/-- `teardownResolvectl`: the link is reverted. -/
def teardownResolvectl (revert : Option CommandFault) (host : Host) : Result :=
  match revert with
  | some fault => ⟨m, host, some ("resolvectl revert: " ++ fault.error ++ ": " ++ fault.output)⟩
  | none => ⟨m, m.resolvectl (fun _ => ⟨[], []⟩) host, none⟩

/-- The last step of `configureDirectFile`: the block is put before the content. -/
def writeManagedBlock (existing : Text) (write : Option WriteFault) (host : Host) : Result :=
  ⟨m, host.writeFile resolvConfPath (managedBlock nameservers searchDomains ++ existing) write,
    write.map fun fault => "write " ++ resolvConfPath ++ ": " ++ fault.error⟩

/-- What follows reading the file, a missing one as empty. -/
def backUp (existing : Text) (outcome : ConfigureOutcome) (host : Host) : Result :=
  if existing ≠ [] then
    let backed := host.writeFile resolvConfBackup existing outcome.backup
    match outcome.backup with
    | some fault => ⟨m, backed, some ("backup " ++ resolvConfPath ++ ": " ++ fault.error)⟩
    | none =>
        { m with backupPath := resolvConfBackup }.writeManagedBlock nameservers searchDomains
          existing outcome.write backed
  else m.writeManagedBlock nameservers searchDomains existing outcome.write host

/-- `configureDirectFile`: a file that does not exist counts as empty. -/
def configureDirectFile (outcome : ConfigureOutcome) (host : Host) : Result :=
  match host.readFile resolvConfPath outcome.read with
  | .error (false, error) => ⟨m, host, some ("read " ++ resolvConfPath ++ ": " ++ error)⟩
  | .error (true, _) => m.backUp nameservers searchDomains [] outcome host
  | .ok existing => m.backUp nameservers searchDomains existing outcome host

end Manager

/-- The end of the footer line: the newline after the footer belongs to it. -/
def footerEnd (content : Text) (footer : Nat) : Nat :=
  let endIdx := footer + managedBlockFooter.length
  if content[endIdx]? = some newline then endIdx + 1 else endIdx

/-- The content without the block, if both markers are found. -/
def cleaned (content : Text) : Option Text :=
  match index content managedBlockHeader, index content managedBlockFooter with
  | some startIdx, some endIdx =>
      some (content.take startIdx ++ content.drop (footerEnd content endIdx))
  | _, _ => none

namespace Manager

variable (m : Manager)

/-- An error of the write is returned as it is. -/
def removeManagedBlock (outcome : TeardownOutcome) (host : Host) : Result :=
  match host.readFile resolvConfPath outcome.read with
  | .error _ => ⟨m, host, none⟩
  | .ok content =>
      match cleaned content with
      | none => ⟨m, host, none⟩
      | some cleaned =>
          ⟨m, host.writeFile resolvConfPath cleaned outcome.write,
            outcome.write.map WriteFault.error⟩

/-- `teardownDirectFile`: without a backup the managed block is removed. -/
def teardownDirectFile (outcome : TeardownOutcome) (host : Host) : Result :=
  if m.backupPath = "" then m.removeManagedBlock outcome host
  else
    match host.readFile m.backupPath outcome.read with
    | .error (_, error) => ⟨m, host, some ("read backup " ++ m.backupPath ++ ": " ++ error)⟩
    | .ok backup =>
        let restored := host.writeFile resolvConfPath backup outcome.write
        match outcome.write with
        | some fault => ⟨m, restored, some ("restore " ++ resolvConfPath ++ ": " ++ fault.error)⟩
        | none =>
            ⟨{ m with backupPath := "" },
              if outcome.removed then restored.setFile m.backupPath none else restored, none⟩

/-- `Configure`, by the backend the manager has chosen. -/
def configure (nameservers searchDomains : List Text) (outcome : ConfigureOutcome) (host : Host) :
    Result :=
  match m.backend with
  | .resolvconf => m.configureResolvconf nameservers searchDomains outcome.resolvconf host
  | .resolvectl => m.configureResolvectl nameservers searchDomains outcome.dns outcome.domain host
  | .directFile => m.configureDirectFile nameservers searchDomains outcome host

/-- `Teardown`, by the same backend. -/
def teardown (outcome : TeardownOutcome) (host : Host) : Result :=
  match m.backend with
  | .resolvconf => m.teardownResolvconf outcome.resolvconf host
  | .resolvectl => m.teardownResolvectl outcome.revert host
  | .directFile => m.teardownDirectFile outcome host

end Manager

/-! ## Accesses that succeed -/

/-- Nothing fails; resolvconf leaves `/etc/resolv.conf` with the content given. -/
def ConfigureOutcome.succeeds (resolvConf : Option Text) : ConfigureOutcome where
  resolvconf := .ok resolvConf
  dns := none
  domain := none
  read := none
  backup := none
  write := none

/-- No access fails. -/
def TeardownOutcome.succeeds (resolvConf : Option Text) : TeardownOutcome where
  resolvconf := .ok resolvConf
  revert := none
  read := none
  write := none
  removed := true

/-- The content of `/etc/resolv.conf`, a missing file as empty. -/
def Host.resolvConf (host : Host) : Text := (host.files resolvConfPath).getD []

end CoderDesktop.Dns
