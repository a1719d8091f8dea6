import Mathlib.Data.Finset.Basic
import Specter.Lib.Shell
import Specter.Profile

/-!
# The drone's system and the commands on it

The part of a drone's file system and of systemd that the setup scripts
and `update.sh` work on, and what each of their commands does to it. A
system keeps a journal of the files written and the services restarted.

A command can fail in two ways: by itself, where the system lacks what
it needs (a copy into a missing directory, the sourcing of a missing
file), or for reasons of its own, which a `Board` chooses. A failed
command leaves the system as it was.

Only a file's text is modelled, not its mode or owner; `chmod` and
`chown` need the file to be there and do nothing else.
-/

namespace Specter

open Posix

/-! ## Directories and files -/

inductive Dir where
  | systemd          -- /etc/systemd/system
  | usrBin           -- /usr/bin
  | etcDefault       -- /etc/default
  | etcHostapd       -- /etc/hostapd
  | etcSpecter       -- /etc/specter
  | etcMavlinkRouter -- /etc/mavlink-router
  | optSpecter       -- /opt/specter
  | optSpecterBin    -- /opt/specter/bin
  | optSpecterSrc    -- /opt/specter/src
  | optSpecterVenv   -- /opt/specter/.venv
deriving Repr, DecidableEq

/-- What `mkdir -p` makes for a directory. -/
def Dir.withParents : Dir → List Dir
  | .optSpecterBin => [.optSpecter, .optSpecterBin]
  | .optSpecterSrc => [.optSpecter, .optSpecterSrc]
  | .optSpecterVenv => [.optSpecter, .optSpecterVenv]
  | d => [d]

inductive File where
  | unit (svc : Service)   -- /etc/systemd/system/<svc>.service
  | mavlinkRouterd         -- /usr/bin/mavlink-routerd
  | defaultHostapd         -- /etc/default/hostapd
  | hostapdConf            -- /etc/hostapd/hostapd.conf
  | wifiEnv                -- /etc/specter/wifi.env
  | mavlinkRouterEnv       -- /etc/specter/mavlink-router.env
  | cameraRelayEnv         -- /etc/specter/camera-relay.env
  | cellularEnv            -- /etc/specter/cellular.env
  | telemetrySenderEnv     -- /etc/specter/telemetry-sender.env
  | installedProfile       -- /etc/specter/installed-profile
  | mainConf               -- /etc/mavlink-router/main.conf
  | pyproject              -- /opt/specter/pyproject.toml
  | uvLock                 -- /opt/specter/uv.lock
  | wifiStart              -- /opt/specter/bin/wifi-start.sh
  | cameraRelay            -- /opt/specter/bin/camera-relay.sh
  | telemetrySender        -- /opt/specter/src/telemetry_sender.py
  | sitePackages           -- the packages in /opt/specter/.venv
deriving Repr, DecidableEq

def File.dir : File → Dir
  | .unit _ => .systemd
  | .mavlinkRouterd => .usrBin
  | .defaultHostapd => .etcDefault
  | .hostapdConf => .etcHostapd
  | .wifiEnv | .mavlinkRouterEnv | .cameraRelayEnv | .cellularEnv | .telemetrySenderEnv
  | .installedProfile => .etcSpecter
  | .mainConf => .etcMavlinkRouter
  | .pyproject | .uvLock => .optSpecter
  | .wifiStart | .cameraRelay => .optSpecterBin
  | .telemetrySender => .optSpecterSrc
  | .sitePackages => .optSpecterVenv

/-- The files of the checkout that are copied or rendered. -/
inductive Source where
  | unit (svc : Service)    -- systemd/<svc>.service
  | wifiStart               -- scripts/wifi-start.sh
  | cameraRelay             -- scripts/camera-relay.sh
  | wifiEnv                 -- config/wifi.env.template
  | hostapdConf             -- config/hostapd.conf.template
  | mavlinkRouterEnv        -- config/mavlink-router.env.template
  | mavlinkRouterConf       -- config/mavlink-router.conf.template
  | cameraRelayEnv          -- config/camera-relay.env.template
  | cellularEnv             -- config/cellular.env.template
  | telemetrySenderEnv      -- config/telemetry-sender.env.template
  | pyproject               -- pyproject.toml
  | uvLock                  -- uv.lock
  | telemetrySender         -- src/telemetry_sender.py
deriving Repr, DecidableEq

/-- What the scripts find beside them. `git pull` or a build of
mavlink-router changes it between two runs. -/
structure Checkout where
  file : Source → Text
  prebuilt : Option Text  -- `bin/mavlink-routerd`, if it is there and executable
  wheels : Bool  -- `wheels/` is there

/-- What a command did that lasts. -/
inductive Action where
  | wrote (f : File) (text : Text)
  | restarted (svc : Service)
deriving Repr, DecidableEq

structure System where
  dirs : Finset Dir
  files : File → Option Text
  enabled : Finset Service
  journal : List Action

def System.apply (sys : System) : Action → System
  | .wrote f text =>
    { sys with
      files := Function.update sys.files f (some text)
      journal := sys.journal ++ [.wrote f text] }
  | .restarted svc => { sys with journal := sys.journal ++ [.restarted svc] }

def System.applyAll (sys : System) (as : List Action) : System := as.foldl System.apply sys

/-! ## Commands -/

/-- Commands that test or change only what is not modelled: packages,
drivers, radio connections, the network. -/
inductive Tool where
  | iwList | grepAp | aptHeaders | makeClean | make | makeInstall | modprobe
  | aptHostapd | disableVendorServices
  | commandMavlinkRouterd
  | aptGstreamer | nmcliShowCamera | nmcliAddCamera
  | aptModemmanager | simPinSet | mmcliList | grepModem | modemFound | mmcliPin
  | nmcliShowGsm | nmcliAddGsm | nmcliAutoconnect | nmcliUp | ipAddrShow | ping
  | commandUv | curlUv | shUv | mvUv
deriving Repr, DecidableEq

inductive Cmd where
  | echo (text : Text)
  | mkdirP (dirs : List Dir)
  | cp (src : Source) (dst : File)
  | chmod (f : File)
  | chown (f : File)
  | source (f : File)  -- `source` of a file of variables
  | export  -- `export` of the variables just sourced
  | envsubst (template : Source)
  | tee (f : File)
  | testPrebuilt  -- `[ -x bin/mavlink-routerd ]`
  | installPrebuilt  -- `install -m 755 bin/mavlink-routerd /usr/bin/mavlink-routerd`
  | buildMavlinkRouter  -- `build_mavlink_router.sh --install`
  | daemonReload
  | enable (svc : Service)
  | start (svc : Service)
  | restart (svc : Service)
  | isActive (svc : Service)
  | echoWith (text : Text)  -- `echo "<text>$(…)"`, the dots being its input
  | grepKeyUnset  -- `grep -q "^DRONE_API_KEY=$"` on `telemetry-sender.env`
  | cdOptSpecter  -- `cd /opt/specter`
  | uvSync
  | testWheels  -- `[ -d wheels ]`
  | uvPipInstall
  | tool (t : Tool)
deriving Repr, DecidableEq

/-- What a run of a script depends on beyond the system: the checkout,
and `envsubst` on the text of the variables and a template. -/
structure Site where
  checkout : Checkout
  envsubst : Text → Text → Text

/-- What commands do for reasons of their own: the status they end with
instead of trying, and what they print where that is not a file's text. -/
structure Board where
  status : Cmd → Nat
  output : Cmd → Text

/-- No command fails for reasons of its own. -/
def Board.Sound (board : Board) : Prop := ∀ c, board.status c = 0

structure Proc where
  sys : System
  vars : Text  -- the variables sourced last, and those exported
  exported : Text

def Proc.start (sys : System) : Proc := ⟨sys, [], []⟩

def Proc.apply (p : Proc) (a : Action) : Proc := { p with sys := p.sys.apply a }

/-- Writing a file takes its directory. -/
def Proc.write (p : Proc) (f : File) (text : Text) : Option (Text × Proc) :=
  if f.dir ∈ p.sys.dirs then some ([], p.apply (.wrote f text)) else none

def Proc.makeDirs (p : Proc) (dirs : List Dir) : Proc :=
  { p with sys := { p.sys with dirs := p.sys.dirs ∪ (dirs.flatMap Dir.withParents).toFinset } }

/-- Nothing but a test, passed or not. -/
def Proc.test (p : Proc) (passed : Prop) [Decidable passed] : Option (Text × Proc) :=
  if passed then some ([], p) else none

/-- What a command prints and does, or `none` where the system lacks what
it needs. -/
def perform (site : Site) (board : Board) (p : Proc) (input : Text) : Cmd → Option (Text × Proc)
  | .echo text => some (text ++ ['\n'], p)
  | .mkdirP dirs => some ([], p.makeDirs dirs)
  | .cp src dst => p.write dst (site.checkout.file src)
  | .chmod f | .chown f => p.test (p.sys.files f ≠ none)
  | .source f => (p.sys.files f).map fun text => ([], { p with vars := text })
  | .export => some ([], { p with exported := p.vars })
  | .envsubst template => some (site.envsubst p.exported (site.checkout.file template), p)
  | .tee f => p.write f input
  | .testPrebuilt => p.test (site.checkout.prebuilt ≠ none)
  | .installPrebuilt => site.checkout.prebuilt.bind (p.write .mavlinkRouterd)
  | .buildMavlinkRouter => p.write .mavlinkRouterd (board.output .buildMavlinkRouter)
  | .enable svc =>
    if p.sys.files (.unit svc) = none then none
    else some ([], { p with sys := { p.sys with enabled := insert svc p.sys.enabled } })
  | .start svc => p.test (p.sys.files (.unit svc) ≠ none)
  | .restart svc =>
    if p.sys.files (.unit svc) = none then none else some ([], p.apply (.restarted svc))
  | .grepKeyUnset =>
    p.test ((p.sys.files .telemetrySenderEnv).any fun text =>
      (lines text).contains "DRONE_API_KEY=".toList)
  | .cdOptSpecter => p.test (.optSpecter ∈ p.sys.dirs)
  | .uvSync =>
    -- makes the environment if there is none, for the project and its lock file
    if p.sys.files .pyproject = none ∨ p.sys.files .uvLock = none then none
    else (p.makeDirs [.optSpecterVenv]).write .sitePackages (board.output .uvSync)
  | .testWheels => p.test (site.checkout.wheels = true)
  | .uvPipInstall =>
    -- wants an environment to install to
    p.write .sitePackages (board.output .uvPipInstall)
  | .daemonReload => some ([], p)
  | .isActive svc => some (board.output (.isActive svc), p)
  | .echoWith text => some (text ++ substitute input ++ ['\n'], p)
  | .tool t => some (board.output (.tool t), p)

def exec (site : Site) (board : Board) (c : Cmd) (p : Proc) (input : Text) :
    Shell.Reply Proc Text :=
  if board.status c ≠ 0 then ⟨board.status c, board.output c, p⟩
  else
    match perform site board p input c with
    | some (output, p) => ⟨0, output, p⟩
    | none => ⟨1, [], p⟩

def shell (site : Site) (board : Board) (pipefail : Bool) : Shell.Machine Cmd Proc Text :=
  ⟨exec site board, pipefail⟩

/-- `echo "<label>$(systemctl is-active <svc>)"`. -/
def sayActive (label : String) (svc : Service) : Shell.Script Cmd :=
  .withOutput (.isActive svc) (.echoWith label.toList)

end Specter
