import ServerConsole.Proofs.Link.Network
import ServerConsole.Proofs.Session.Log
import ServerConsole.Proofs.Session.Outage

/-!
# From the network to the log

The task takes texts off its sockets, the session takes the events of the task, and the log takes
lines. Here the three are put together, for a session whose owner only looks on.

* `Frame.line?`, `Link.Event.line?`  the line a frame or an event makes, if any;
* `LogLine.untimed`   a line without the label of its arrival;
* `socketLines`       the lines of one socket;
* `Input.isIdle`      what comes in while the owner asks for nothing;
* `log_of_idle`       the lines of an idle run are those of its events;
* `console_order`     the log at the end of a network.
-/

namespace ServerConsole

/-! ## lines -/

def Frame.line? (time : String) : Frame → Option LogLine
  | .console line color daemon => some ⟨time, line, color, if daemon then .system else .server⟩
  | .error message => some (.error time message)
  | .stats _ | .status _ => none

def Link.Event.line? (time : String) : Link.Event → Option LogLine
  | .opened true => some (.system time Session.gapMarker)
  | .frame f => f.line? time
  | _ => none

def LogLine.untimed (l : LogLine) : LogLine := { l with time := "" }

theorem Link.Event.untimed_line? (e : Link.Event) (time : String) :
    (e.line? time).map LogLine.untimed = e.line? "" := by
  cases e with
  | opened again => cases again <;> rfl
  | frame f => cases f <;> rfl
  | rejected _ | lost _ | reconnecting _ _ | gaveUp _ | closed => rfl

theorem Link.Event.line?_of_not_live {e : Link.Event} (h : e.isLive = false) (time : String) :
    e.line? time = none := by
  cases e with
  | opened _ | frame _ => cases h
  | rejected _ | lost _ | reconnecting _ _ | gaveUp _ | closed => rfl

namespace Session

/-- the lines of the frames that are passed on, without the labels of their arrival -/
def socketLines (ms : List Link.Message) : List LogLine :=
  (Link.passed ms).filterMap (Frame.line? "")

def gapLine : LogLine := .system "" gapMarker

/-- an event comes in, the clock moves on, or the task takes no more commands -/
def Input.isIdle : Input → Bool
  | .operation (.hear _) | .operation (.relabel _) | .operation .detach => true
  | _ => false

theorem Input.idle_cases {i : Input} (h : i.isIdle = true) :
    (∃ e, i = .operation (.hear e)) ∨ (∃ clock, i = .operation (.relabel clock)) ∨
      i = .operation .detach := by
  cases i with
  | completion c => cases h
  | operation op =>
    cases op with
    | hear e => exact .inl ⟨e, rfl⟩
    | relabel clock => exact .inr (.inl ⟨clock, rfl⟩)
    | detach => exact .inr (.inr rfl)
    | submit _ | request _ | revisit _ | close => cases h

/-! ## the lines of a run -/

theorem log_handleLink (s : Session) (e : Link.Event) :
    (s.handleLink e).log = s.log.appendAll (e.line? s.clock).toList := by
  cases e with
  | opened again => cases again <;> rfl
  | frame f => cases f <;> rfl
  | rejected _ | lost _ | reconnecting _ _ | gaveUp _ | closed => rfl

/-- an idle run puts the lines of its events into the log, in order -/
theorem log_of_idle {s : Session} {is : List Input} (hi : ∀ i ∈ is, i.isIdle = true)
    (ho : s.closed = false) (hor : Link.Orderly s.link.state (heard is)) :
    ∃ lines, (s.run is).1.log = s.log.appendAll lines ∧
      lines.map LogLine.untimed = (heard is).filterMap (Link.Event.line? "") := by
  induction is generalizing s with
  | nil => exact ⟨[], rfl, rfl⟩
  | cons i is ih =>
    obtain ⟨hi, his⟩ := List.forall_mem_cons.mp hi
    rw [run_cons]
    rcases Input.idle_cases hi with ⟨e, rfl⟩ | ⟨clock, rfl⟩ | rfl
    · obtain ⟨ha, hor⟩ := hor
      rw [← state_hear ho ha] at hor
      have hos : (s.feed (.operation (.hear e))).1.closed = false := by
        rw [closed_feed, ho]
        rfl
      have hs : (s.feed (.operation (.hear e))).1.log = s.log.appendAll (e.line? s.clock).toList := by
        rw [hear_of_admits ho ha]
        exact log_handleLink { s with link := s.link.observe e } e
      obtain ⟨lines, hl, hu⟩ := ih his hos hor
      refine ⟨(e.line? s.clock).toList ++ lines, ?_, ?_⟩
      · rw [Log.appendAll_append, ← hs]
        exact hl
      · show _ = (e :: heard is).filterMap (Link.Event.line? "")
        rw [List.map_append, hu, List.filterMap_cons, ← e.untimed_line? s.clock]
        cases e.line? s.clock <;> rfl
    · exact ih his ho hor
    · exact ih his ho hor

/-! ## the lines of a network -/

/-- only what comes from an open socket makes lines -/
theorem lines_live (w : List Link.Event) :
    (w.filter Link.Event.isLive).filterMap (Link.Event.line? "") =
      w.filterMap (Link.Event.line? "") := by
  induction w with
  | nil => rfl
  | cons e w ih =>
    cases h : e.isLive with
    | true => rw [List.filter_cons_of_pos h, List.filterMap_cons, List.filterMap_cons, ih]
    | false =>
      rw [List.filter_cons_of_neg (by simp [h]), ih,
        List.filterMap_cons_none (Link.Event.line?_of_not_live h "")]

theorem lines_frames (ms : List Link.Message) :
    ((Link.passed ms).map Link.Event.frame).filterMap (Link.Event.line? "") = socketLines ms :=
  List.filterMap_map

theorem lines_told_cons (again : Bool) (ms : List Link.Message) (rest : List (List Link.Message)) :
    (Link.told again (ms :: rest)).filterMap (Link.Event.line? "") =
      (if again then [gapLine] else []) ++ (socketLines ms ++
        (Link.told true rest).filterMap (Link.Event.line? "")) := by
  have hg : ([.opened again] : List Link.Event).filterMap (Link.Event.line? "") =
      if again then [gapLine] else [] := by
    cases again <;> rfl
  rw [← hg, ← lines_frames, ← List.filterMap_append, ← List.filterMap_append]
  rfl

/-- the lines of the sockets, with the mark of a gap ahead of each one but the very first -/
theorem lines_told (again : Bool) (ms : List Link.Message) (rest : List (List Link.Message)) :
    (Link.told again (ms :: rest)).filterMap (Link.Event.line? "") =
      (if again then [gapLine] else []) ++ [gapLine].intercalate ((ms :: rest).map socketLines) := by
  induction rest generalizing again ms with
  | nil =>
    rw [lines_told_cons, List.map_singleton, List.intercalate_singleton]
    exact congrArg _ (List.append_nil _)
  | cons next rest ih =>
    rw [lines_told_cons, ih, if_pos rfl]
    simp only [List.map_cons, List.intercalate_cons_cons, List.append_assoc]

theorem lines_network (p : Link.Policy) (net : Link.Network) :
    (Link.Task.reports p net.happenings).filterMap (Link.Event.line? "") =
      [gapLine].intercalate ((net.sockets p).map socketLines) := by
  rw [← lines_live, Link.told_of_network]
  cases net.sockets p with
  | nil => rfl
  | cons ms rest => exact lines_told false ms rest

/-- **From the network to the log.** Let a session take every event that a task reports on a network,
in order, while its owner asks for nothing. Then the lines that have come in are those of the sockets
that were opened, socket by socket, with one mark of a gap between two of them, and the log shows the
last of these lines, as many as it has room for. The lines of a socket are those of its frames of kind
console, in order, up to the first frame of kind error, which makes the last one. -/
theorem console_order (o : Opening) (p : Link.Policy) (net : Link.Network) (is : List Input)
    (hi : ∀ i ∈ is, i.isIdle = true) (hh : heard is = Link.Task.reports p net.happenings) :
    let log := (o.session.run is).1.log
    ∃ lines : List LogLine,
      log = o.session.log.appendAll lines ∧
      log.toList = lines.drop (lines.length - max o.scrollback 1) ∧
      log.appended = UInt64.ofNat lines.length ∧
      lines.map LogLine.untimed = [gapLine].intercalate ((net.sockets p).map socketLines) := by
  intro log
  obtain ⟨server, view, telemetry, hs⟩ := o.session_frame
  have ho : o.session.closed = false := by rw [hs]; rfl
  have hor : Link.Orderly o.session.link.state (heard is) := by
    rw [(steady_opening o).2, hh]
    exact Link.orderly_reports p net.happenings
  have hlog : o.session.log = .withCapacity o.scrollback := by rw [hs]; rfl
  obtain ⟨lines, hl, hu⟩ := log_of_idle hi ho hor
  refine ⟨lines, hl, ?_, ?_, ?_⟩
  · show (o.session.run is).1.log.toList = _
    rw [hl, hlog]
    exact Log.toList_appendAll_new o.scrollback lines
  · show (o.session.run is).1.log.appended = _
    rw [hl, hlog, Log.appended_appendAll]
    exact UInt64.zero_add _
  · rw [hu, hh, lines_network]

/-- a socket ends after one line, and a retry opens another one, whose first text is no frame -/
theorem console_order_gap :
    let first : List Link.Message := [.text "\x7b\"type\":\"console\",\"line\":\"up\"\x7d"]
    let second : List Link.Message := [.text "?", .text "\x7b\"type\":\"console\",\"line\":\"back\"\x7d"]
    let net : Link.Network := .socket first .ended (.live second)
    let is : List Input := [.operation (.hear (.opened false)),
      .operation (.hear (.frame (.console "up" none false))),
      .operation (.hear (.lost "stream ended")), .operation (.hear (.reconnecting 1 500000000)),
      .operation (.relabel "12:00"), .operation (.hear (.opened true)),
      .operation (.hear (.frame (.console "back" none false)))]
    (∀ i ∈ is, i.isIdle = true) ∧ heard is = Link.Task.reports .standard net.happenings ∧
    ((Opening.plain .running .everything).session.run is).1.log.toList.map LogLine.untimed =
      [.server "" "up" none, gapLine, .server "" "back" none] := by
  intro first second net is
  have hi : ∀ i ∈ is, i.isIdle = true := by decide
  have hh : heard is = Link.Task.reports .standard net.happenings := by decide +kernel
  have hr : Link.refuses first = false := by decide +kernel
  have hn : net.sockets .standard = [first, second] := by
    simp [net, Link.Network.sockets, Link.Network.socketsFrom, hr, Link.retried, Link.Ending.cause,
      Link.Cause.isFinal, Link.Policy.standard]
  have h1 : socketLines first = [.server "" "up" none] := by decide +kernel
  have h2 : socketLines second = [.server "" "back" none] := by decide +kernel
  obtain ⟨lines, -, hl, -, hu⟩ :=
    console_order (.plain .running .everything) .standard net is hi hh
  have hu' : lines.map LogLine.untimed = [.server "" "up" none, gapLine, .server "" "back" none] := by
    rw [hu, hn, List.map_cons, List.map_singleton, h1, h2]
    rfl
  have hlen : lines.length = 3 := by rw [← List.length_map LogLine.untimed, hu']; rfl
  refine ⟨hi, hh, ?_⟩
  rw [hl, hlen]
  exact hu'

end Session

end ServerConsole
