/-
Pings, and what a channel that answers them does with the other commands.

Whether a command is a ping is seen only when it has come through the modules: a module may make a
ping of another command, or something else of a ping.  What has come through as a ping is answered
by the channel itself, and no listener hears of it.  The answer goes the way of all commands that are
sent, through the same modules; everything else is told to the listeners (`pings_answered`).
-/
import Courier.Proofs.Channel.Modules
import Courier.Proofs.Channel.Reception

namespace Courier

variable {σ : Type} {h : Host σ} {treat : Treatment σ}

/-- The modules for commands are modules of the program. -/
def CommandsNamed (pipelines : PerKind (Pipeline Stage)) : Prop :=
  Stage.receipt ∉ pipelines.command.modules

namespace World

/-! ## The modules for commands -/

theorem lasting_commandsNamed : Lasting CommandsNamed where
  add := by
    intro pipelines kind name hnamed
    cases kind with
    | command => simpa [CommandsNamed, PerKind.set, PerKind.get, Pipeline.add] using hnamed
    | message | notification => exact hnamed
  remove := by
    intro pipelines kind name hnamed
    cases kind with
    | command => exact fun hmem => hnamed (List.mem_filter.mp hmem).1
    | message | notification => exact hnamed

theorem commandsNamed_of_create {settings : ChannelSettings} {standing : Standing} {link : Link}
    {driven : Bool} {user : σ} {w : World σ}
    (hcreate : create settings standing link driven user = .ok w) : w.Equipped CommandsNamed := by
  unfold create at hcreate
  split at hcreate
  · cases hcreate
  · obtain rfl := Except.ok.inj hcreate
    exact List.not_mem_nil

/-! ## A ping -/

/-- What a channel that answers pings takes for one. -/
theorem answersItself_iff {w : World σ} {command : Command} :
    w.answersItself .command command = true ↔
      w.channel.settings.answersPings = true ∧ command.method = .get ∧ command.status = none ∧
        command.uri = some "/ping" := by
  unfold answersItself Command.isPing
  rw [Bool.and_eq_true, Bool.and_eq_true, Bool.and_eq_true, decide_eq_true_iff, decide_eq_true_iff,
    decide_eq_true_iff, and_assoc]
  rfl

theorem arrive_of_answered {w : World σ} {command : Command}
    (hanswered : w.answersItself .command command = true) :
    w.arrive h .command command = w.sendUnchecked h .command (.pong command) true :=
  if_pos hanswered

/-! ## Commands -/

/-- What a channel makes of a command in an established session depends on what the modules have made
of it.  If that is a ping, and the channel is set to answer pings, the answer goes through the modules
in turn, and is handed to the link unless one of them swallows it.  The session, the listeners and all
else of the channel are as they were then.  In all other cases the channel sends nothing, and what the
modules have made of the command, if anything, is told to all listeners for commands. -/
theorem pings_answered {settings : ChannelSettings} {standing : Standing} {link : Link}
    {driven : Bool} {user : σ} {w : World σ}
    (hcreate : create settings standing link driven user = .ok w)
    (hh : h.Within (Equipped CommandsNamed)) (ht : ∀ direction, h.TreatsOn treat .command direction) :
    (∀ steps, (w.after h steps).Equipped CommandsNamed) ∧
    ∀ u : World σ, u.Equipped CommandsNamed → u.channel.standing.state = .established →
      ∀ command : Command,
        let incoming := treat.transit .command .receiving (u.modulesOf .command) command u.user
        let arrived := u.touch.passed .receiving incoming
        let reception := u.receive h (.command command)
        let isAnswered (c : Command) := u.channel.settings.answersPings = true ∧
          c.method = .get ∧ c.status = none ∧ c.uri = some "/ping"
        (incoming.item = none → reception = (.ok (), arrived)) ∧
        (∀ c, incoming.item = some c → isAnswered c →
          let pong : Command := {
            header := { id := c.header.id, recipient := c.header.sender }
            method := .get
            mediaType := some "application/vnd.lime.ping+json"
            resource := some (.object [])
            status := some .success }
          let outgoing := treat.transit .command .sending (u.modulesOf .command) pong incoming.user
          reception.2 = { u with
            channel := { u.channel with lastActivity := u.now }
            user := outgoing.user
            link := outgoing.item.elim u.link fun result => (u.link.send (.command result)).2
            trace := u.trace ++ (incoming.entered.map fun name => .entered name .receiving) ++
              (outgoing.entered.map fun name => .entered name .sending) ++
              outgoing.item.toList.map fun result => handing u.link (.command result) }) ∧
        ∀ c, incoming.item = some c → ¬isAnswered c →
          let notice := Notice.envelope (.command c)
          let listeners := u.channel.listeners.command.listeners
          reception = (.ok (), (arrived.taken .command).told h notice listeners) ∧
            (h.IsReserved → reception.2.link = u.link ∧ reception.2.trace = u.trace ++
              (incoming.entered.map fun name => .entered name .receiving) ++
              listeners.map fun name => .notified name notice) := by
  refine ⟨fun steps => equipped_after lasting_commandsNamed (fun _ => id) hh steps
    (commandsNamed_of_create hcreate), ?_⟩
  intro u hstages hstate command incoming arrived reception isAnswered
  have harrives : ∀ c, incoming.item = some c → reception = arrived.arrive h .command c :=
    fun c hpassed => receive_of_passed (ht .receiving) hstate hstages hpassed
  have hanswers : ∀ c : Command, arrived.answersItself .command c = true ↔ isAnswered c :=
    fun c => answersItself_iff
  refine ⟨receive_of_swallowed (ht .receiving) hstate hstages, ?_, ?_⟩
  · intro c hpassed hping pong outgoing
    rw [harrives c hpassed, arrive_of_answered ((hanswers c).mpr hping)]
    exact sendUnchecked_posted (ht .sending) pong arrived
  · intro c hpassed hother notice listeners
    have htold : reception = (.ok (), (arrived.taken .command).told h notice listeners) := by
      rw [harrives c hpassed]
      exact arrive_of_unanswered (Bool.eq_false_iff.mpr (mt (hanswers c).mp hother))
    refine ⟨htold, fun hreserved => ?_⟩
    obtain ⟨user, hcalled⟩ := told_reserved hreserved notice listeners (arrived.taken .command)
    rw [htold, hcalled]
    exact ⟨rfl, rfl⟩

end World

/-- A program with a module that makes pings of the commands that come in, and something else of
pings. -/
def maskingProgram : Program Nat where
  script _ count := (.done, count)
  transform
    | .command, _, .receiving, command, count =>
      let uri := if command.uri = some Command.pingUri then "/account" else Command.pingUri
      (some { command with uri }, count + 1)
    | _, _, _, item, count => (some item, count)

namespace World

/-- A command comes out of the module as a ping and is answered, and a ping as another command, which
a listener is told of. -/
theorem pings_answered_masked :
    let h := maskingProgram.host 1
    let steps : List Step := [.request (.addModule .command "mask"),
      .request (.addListener (.traffic .command) "first" true)]
    let header : Header := { id := some "c1", sender := some { place := some "phone" } }
    let account : Command := { header, method := .get, uri := some "/account" }
    let ping : Command := { header, method := .get, uri := some "/ping" }
    let pong : Command := {
      header := { id := some "c1", recipient := some { place := some "phone" } }
      method := .get
      mediaType := some "application/vnd.lime.ping+json"
      resource := some (.object [])
      status := some .success }
    ∃ w, create { answersPings := true } { state := .established } {} false 0 = .ok w ∧
      let u := w.after h steps
      u.Equipped CommandsNamed ∧ u.channel.standing.state = .established ∧
        (u.receive h (.command account)).2.channel.listeners.command.entries = [⟨"first", true⟩] ∧
        (u.receive h (.command account)).2.trace = [.entered "mask" .receiving,
          .entered "mask" .sending, .sent (.command pong)] ∧
        (u.receive h (.command ping)).2.link.sent = [] ∧
        (u.receive h (.command ping)).2.trace = [.entered "mask" .receiving,
          .notified "first" (.envelope (.command account))] := by
  intro h steps header account ping pong
  have hdone : ∀ call count, (maskingProgram.script call count).1 = .done := fun _ _ => rfl
  have ht : ∀ direction, h.TreatsOn maskingProgram.treatment .command direction :=
    (Program.host_treats (fun _ _ _ => hdone _) 0).on .command
  obtain ⟨w, hcreate⟩ : ∃ w, create { answersPings := true } { state := .established } {} false 0 =
      .ok w := ⟨_, rfl⟩
  obtain ⟨hruns, hreceive⟩ := pings_answered hcreate
    ((Program.host_isLawful maskingProgram 1).within _) ht
  refine ⟨w, hcreate, hruns steps, ?_⟩
  obtain rfl := Except.ok.inj hcreate
  obtain ⟨-, hanswered, -⟩ := hreceive _ (hruns steps) rfl account
  obtain ⟨-, -, hother⟩ := hreceive _ (hruns steps) rfl ping
  obtain ⟨-, htold⟩ := hother account rfl (by decide)
  obtain ⟨hlink, htrace⟩ := htold (Program.host_isReserved hdone 1)
  refine ⟨rfl, ?_, ?_, ?_, ?_⟩
  · rw [hanswered ping rfl ⟨rfl, rfl, rfl, rfl⟩]
    rfl
  · rw [hanswered ping rfl ⟨rfl, rfl, rfl, rfl⟩]
    rfl
  · rw [hlink]
    rfl
  · rw [htrace]
    rfl

end World
end Courier
