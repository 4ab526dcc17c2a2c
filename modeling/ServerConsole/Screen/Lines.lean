import ServerConsole.App
import ServerConsole.Screen.ByteCount
import ServerConsole.Screen.Style

/-!
# The lines of the screen

* `header`    server, status, the action under way, and the state of the channel;
* `statsLine` the telemetry, marked when it is stale;
* `logLine`   a line of the log, in its own colour or the one of its origin;
* `footer`    the message, or the key hints;
* `consoleTitle`, `inputTitle`  the titles of the two panes.
-/

namespace ServerConsole.Screen

/-! ## header -/

def statusColor : Status → Color
  | .running => .green
  | .stopped => .gray
  | .suspended => .magenta
  | .failed => .red
  | .installing => .yellow

def linkColor : Link.State → Color
  | .connected => .green
  | .connecting | .reconnecting => .yellow
  | .failed => .red
  | .closed => .darkGray

/-- the word for the action under way -/
def progress? (v : Power.View) : Option String :=
  v.inFlight.map fun action => (if v.escalating then "killing" else action.progressive) ++ "..."

def gap : Span := { text := "  " }

def linkSpan (l : Link) : Span :=
  match l.error with
  | some e => { text := "console unavailable: " ++ e, fg := some .white, bg := some .red }
  | none => .colored l.state.name (linkColor l.state)

def header (s : Session) : List Span :=
  [{ text := s.server.name, bold := true }, gap, .colored s.status.name (statusColor s.status)]
    ++ (match progress? s.powerView with
      | some label => [gap, .colored label .yellow]
      | none => [])
    ++ [gap, linkSpan s.link]

/-! ## telemetry -/

/-- the mark of telemetry that is no longer updated; `seconds` since the last sample, if any came -/
def staleMark (seconds : Option String) : String :=
  match seconds with
  | some n => "  (stale, " ++ n ++ "s ago)"
  | none => "  (stale)"

def staleLabel (millis : Option Nat) : String := staleMark (millis.map fun ms => Text.decimal (ms / 1000))

def share (percent : Float) : String := "(" ++ Text.fixed 0 percent ++ "%)"

def usage (t : Telemetry) (sample : Sample) (server : Server) : String :=
  "CPU " ++ Text.fixed 1 sample.cpu ++ "% " ++ share (t.cpuPercent server)
    ++ "  MEM " ++ formatBytes sample.memory ++ " / "
    ++ formatBytes (Telemetry.memoryLimit sample server) ++ " " ++ share (t.memoryPercent server)
    ++ "  DISK " ++ formatBytes sample.disk ++ " / " ++ formatBytes server.diskLimit ++ " "
    ++ share (t.diskPercent server)
    ++ "  NET rx " ++ formatBytes sample.received ++ " tx " ++ formatBytes sample.sent

/-- `seconds` is the age of the last sample -/
def statsLine (s : Session) (seconds : String) : List Span :=
  match s.telemetry.sample with
  | none => [.colored "waiting for stats" .darkGray]
  | some sample =>
    let text := usage s.telemetry sample s.server
    if s.telemetry.stale then
      let age := if s.telemetry.dated then some seconds else none
      [.colored text .darkGray, .colored (staleMark age) .darkGray]
    else [{ text := text }]

/-! ## log -/

def originColor? : Origin → Option Color
  | .server => none
  | .system => some .yellow
  | .echo => some .cyan

def logLine (l : LogLine) : List Span :=
  let color := (l.color.bind Color.ofText?).or (originColor? l.origin)
  [.colored (l.time ++ " ") .darkGray, { text := l.text, fg := color }]

/-! ## titles and footer -/

def consoleTitle (scroll : Nat) : String :=
  if 0 < scroll then " Console (+" ++ Text.decimal scroll ++ ") " else " Console "

def inputTitle (state : Link.State) : String :=
  if state = .connected then " Command " else " Command (not connected) "

def hints : String :=
  "^S start  ^X stop  ^R restart  ^K kill  PgUp/PgDn scroll  ^Q quit"

def footer (message : Option String) : Span :=
  match message with
  | some m => .colored m .yellow
  | none => .colored hints .darkGray

/-! ## cursor -/

structure Area where
  x : Nat
  y : Nat
  width : Nat
  height : Nat

/-- columns are numbers of sixteen bits; sums stop at the last one -/
def lastColumn : Nat := 65535

def column (a b : Nat) : Nat := min (a + b) lastColumn

/-- the column of the input cursor, kept inside the border of its box -/
def cursorColumn (area : Area) (cursor : Nat) : Nat :=
  min (column (column area.x 1) (min cursor lastColumn)) (column area.x (area.width - 2))

end ServerConsole.Screen
