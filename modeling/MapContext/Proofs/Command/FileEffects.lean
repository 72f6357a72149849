import Mathlib.Logic.Function.Basic
import MapContext.Command.Reading
import MapContext.Command.Run
import MapContext.Proofs.Context.Saving
import MapContext.Proofs.Context.Sessions
import MapContext.Workspace

/-!
# Effects on files

A command changes at most one file, as its last step, and none if it fails. What an edit writes is
what it would print without a file to write to. An append that is announced for a command is never
superseded, so this is not among its failures.
-/

namespace MapContext

/-! ### Announced appends -/

/-- An append to a context that nobody else has: it is announced and then completed. If it were
superseded, it would fail as given. -/
def announced (superseded : Nat → Nat → Failure) (c : Context) (href : String)
    (capabilities : Capabilities) (fresh : Nat → Resource.Id) : Except Failure Context :=
  let (shared, ticket) := (Shared.new c).announce href
  let (shared, result) := shared.complete ticket capabilities fresh
  match result with
  | .ok (.applied _) => .ok shared.context
  | .ok (.superseded generation latest) => .error (superseded generation latest)
  | .error e => .error (.context e)

theorem announced_eq (superseded : Nat → Nat → Failure) (c : Context) (href : String)
    (capabilities : Capabilities) (fresh : Nat → Resource.Id) :
    announced superseded c href capabilities fresh =
      (Failure.ofContext (c.append href capabilities fresh)).map (·.1) := by
  obtain ⟨hresult, hcontext⟩ := Shared.complete_announce (Shared.new c) href capabilities fresh
  have hnew : (Shared.new c).context = c := rfl
  rw [hnew] at hresult hcontext
  rw [announced]
  dsimp only
  rw [hresult]
  cases happend : c.append href capabilities fresh with
  | error e => rfl
  | ok appended => exact congrArg Except.ok (hcontext appended.1 appended.2 happend)

/-- A command announces its append and completes it, and nobody else announces one in between. So it
is an append to the context that was read, and it is never superseded. -/
theorem Edit.apply_append {m : Type → Type} [Monad m] [LawfulMonad m] (host : Host m)
    (settings : Settings) (fresh : Nat → Resource.Id) (c : Context) (source : String)
    (given : Option String) (superseded : Nat → Nat → Failure) :
    Edit.apply host settings fresh c (.append source given) = (do
      let (href, capabilities) ← host.service settings source given
      announced superseded c href capabilities fresh) := by
  rw [Edit.apply]
  refine bind_congr fun (href, capabilities) => ?_
  dsimp only
  rw [announced_eq]
  cases Failure.ofContext (c.append href capabilities fresh) with
  | error e => exact ExceptT.ext (pure_bind _ _)
  | ok appended => exact ExceptT.ext (pure_bind _ _)

/-! ### Surroundings -/

/-- Surroundings with files. A path leads to a place, and a place may hold a text. Nothing but a
successful write changes a text, and this one only where its path leads. -/
structure Disk (σ φ : Type) [DecidableEq φ] where
  /-- The surroundings. -/
  host : Host (StateM σ)
  /-- Where a path leads. -/
  place? : String → Option φ
  /-- The text at a place. -/
  text? : σ → φ → Option String
  /-- Reading changes no text. -/
  text?_read : ∀ path s, text? ((host.read path).run s).2 = text? s
  /-- Looking at a variable changes no text. -/
  text?_getVariable : ∀ name s, text? ((host.getVariable name).run s).2 = text? s
  /-- A request changes no text. -/
  text?_send : ∀ request s, text? ((host.send request).run s).2 = text? s
  /-- A successful write changes one text. -/
  text?_write : ∀ path text s, ((host.write path text).run s).1 = .ok () →
    ∃ f, place? path = some f ∧
      text? ((host.write path text).run s).2 = Function.update (text? s) f (some text)
  /-- A failed write changes none. -/
  text?_write_error : ∀ path text s fault, ((host.write path text).run s).1 = .error fault →
    text? ((host.write path text).run s).2 = text? s

namespace Disk

variable {σ φ : Type} [DecidableEq φ] {α β : Type}

/-- Runs a part of a command. -/
def exec (x : ExceptT Failure (StateM σ) α) (s : σ) : Except Failure α × σ := x.run.run s

theorem exec_action (x : StateM σ α) (s : σ) :
    exec (liftM x) s = (.ok (x.run s).1, (x.run s).2) := rfl

theorem exec_bind_ok {x : ExceptT Failure (StateM σ) α} {s s' : σ} {a : α}
    (h : exec x s = (.ok a, s')) (f : α → ExceptT Failure (StateM σ) β) :
    exec (x >>= f) s = exec (f a) s' := by
  change (match x.run.run s with | (r, s') => (ExceptT.bindCont f r).run s') = _
  rw [show x.run.run s = (.ok a, s') from h]
  rfl

theorem exec_bind_error {x : ExceptT Failure (StateM σ) α} {s s' : σ} {e : Failure}
    (h : exec x s = (.error e, s')) (f : α → ExceptT Failure (StateM σ) β) :
    exec (x >>= f) s = (.error e, s') := by
  change (match x.run.run s with | (r, s') => (ExceptT.bindCont f r).run s') = _
  rw [show x.run.run s = (.error e, s') from h]
  rfl

theorem exec_bind_eq_ok {x : ExceptT Failure (StateM σ) α} {f : α → ExceptT Failure (StateM σ) β}
    {s s' : σ} {b : β} (h : exec (x >>= f) s = (.ok b, s')) :
    ∃ a s₁, exec x s = (.ok a, s₁) ∧ exec (f a) s₁ = (.ok b, s') := by
  cases hx : exec x s with
  | mk r s₁ =>
    cases r with
    | ok a =>
        rw [exec_bind_ok hx] at h
        exact ⟨a, s₁, rfl, h⟩
    | error e =>
        rw [exec_bind_error hx] at h
        cases h

/-- A part of a command that changes no text. -/
def Keeps (disk : Disk σ φ) (x : ExceptT Failure (StateM σ) α) : Prop :=
  ∀ s, disk.text? (exec x s).2 = disk.text? s

namespace Keeps

variable {disk : Disk σ φ}

theorem pure (a : α) : disk.Keeps (pure a) := fun _ => rfl

theorem throw (e : Failure) : disk.Keeps (throw e : ExceptT Failure (StateM σ) α) := fun _ => rfl

theorem result (r : Except Failure α) : disk.Keeps (liftM r : ExceptT Failure (StateM σ) α) := by
  cases r <;> exact fun _ => rfl

theorem action {x : StateM σ α} (h : ∀ s, disk.text? (x.run s).2 = disk.text? s) :
    disk.Keeps (liftM x) := h

theorem bind {x : ExceptT Failure (StateM σ) α} {f : α → ExceptT Failure (StateM σ) β}
    (hx : disk.Keeps x) (hf : ∀ a, disk.Keeps (f a)) : disk.Keeps (x >>= f) := by
  intro s
  have hkept := hx s
  cases h : exec x s with
  | mk r s' =>
    rw [h] at hkept
    cases r with
    | ok a => rw [exec_bind_ok h, hf a s', hkept]
    | error e => rw [exec_bind_error h, hkept]

end Keeps

variable (disk : Disk σ φ) (settings : Settings) (fresh : Nat → Resource.Id)

theorem exec_readAs {ε : Type} {path text : String} {s : σ} {read : String → Except ε α} {a : α}
    (hs : (disk.host.read path).run s = (.ok text, s)) (ha : read text = .ok a)
    (failure : ε → Failure) : exec (disk.host.readAs path read failure) s = (.ok a, s) := by
  have hread : exec (liftM (disk.host.read path)) s = (.ok (.ok text), s) := by
    rw [exec_action, hs]
  refine (exec_bind_ok hread _).trans ?_
  dsimp only
  rw [ha]
  rfl

theorem keeps_readAs {ε : Type} (path : String) (read : String → Except ε α)
    (failure : ε → Failure) : disk.Keeps (disk.host.readAs path read failure) := by
  refine .bind (.action (disk.text?_read path)) fun result => ?_
  cases result with
  | error fault => exact .throw _
  | ok text =>
      dsimp only
      split
      · exact .pure _
      · exact .throw _

theorem keeps_capabilities (href : String) (s : σ) :
    disk.text? ((Remote.capabilities disk.host settings href).run s).2 = disk.text? s := by
  unfold Remote.capabilities
  split
  · rfl
  · next request _ => exact disk.text?_send request s

theorem keeps_service (source : String) (given : Option String) :
    disk.Keeps (disk.host.service settings source given) := by
  unfold Host.service
  split
  · refine .bind (.action (keeps_capabilities disk settings source)) fun received => ?_
    cases received with
    | ok c => exact .pure _
    | error e => exact .throw _
  · refine .bind (keeps_readAs disk source _ _) fun c => ?_
    exact .bind (.result _) fun href => .pure _

theorem keeps_apply (c : Context) (e : Edit) :
    disk.Keeps (e.apply disk.host settings fresh c) := by
  cases e with
  | move source target position => exact .bind (.result _) fun _ => .pure _
  | insert title id target position => exact .result _
  | remove id => exact .bind (.result _) fun _ => .pure _
  | activate id active => exact .result _
  | append source href =>
      refine .bind (keeps_service disk settings source href) fun _ => ?_
      exact .bind (.result _) fun _ => .pure _

theorem keeps_report (document : String) (r : Report) :
    disk.Keeps ((Command.report document r).run disk.host settings fresh) :=
  .bind (keeps_readAs disk document _ _) fun _ => .result _

theorem keeps_output (document : String) (e : Edit) :
    disk.Keeps ((Command.edit document e .output).run disk.host settings fresh) := by
  refine .bind (keeps_readAs disk document _ _) fun c => ?_
  exact .bind (keeps_apply disk settings fresh c e) fun _ => .pure _

/-! ### The last step -/

/-- What an edit gives without a file to write to is the text of a context. -/
theorem exists_of_output {document : String} {e : Edit} {s s' : σ} {text : String}
    (h : exec ((Command.edit document e .output).run disk.host settings fresh) s =
      (.ok text, s')) : ∃ c : Context, text = c.text := by
  obtain ⟨c, s₁, -, h⟩ := exec_bind_eq_ok h
  obtain ⟨edited, s₂, -, h⟩ := exec_bind_eq_ok h
  cases h
  exact ⟨edited, rfl⟩

/-- An edit is computed and then sent, wherever it goes. -/
theorem run_edit (document : String) (e : Edit) (d : Destination) :
    (Command.edit document e d).run disk.host settings fresh =
      (Command.edit document e .output).run disk.host settings fresh >>= fun text =>
        d.send disk.host document text := by
  simp only [Command.run, Destination.send, Destination.path?, bind_assoc, pure_bind]

/-- Runs a command. -/
def run (command : Command) (s : σ) : Except Failure String × σ :=
  exec (command.run disk.host settings fresh) s

/-- Where a text goes: without a path it is printed; with a path it is written where the path leads,
and nothing is printed. -/
def Delivers (written : String) (texts : φ → Option String)
    (after : Except Failure String × σ) : Option String → Prop
  | none => after.1 = .ok written ∧ disk.text? after.2 = texts
  | some path => after.1 = .ok "" ∧ ∃ f, disk.place? path = some f ∧
      disk.text? after.2 = Function.update texts f (some written)

theorem exec_send {document path text : String} {d : Destination} {s s' : σ}
    {result : Except FileFault Unit} (hd : d.path? document = some path)
    (hwrite : (disk.host.write path text).run s = (result, s')) :
    exec (d.send disk.host document text) s =
      match result with
      | .ok _ => (.ok "", s')
      | .error fault => (.error (.unwritable path fault), s') := by
  unfold Destination.send
  rw [hd]
  have hsent : exec (liftM (disk.host.write path text)) s = (.ok result, s') := by
    rw [exec_action, hwrite]
  refine (exec_bind_ok hsent _).trans ?_
  cases result <;> rfl

/-- A text that is sent arrives, or the texts of all files stay. -/
theorem send_cases (document text : String) (d : Destination) (s : σ) :
    ((∃ e, (exec (d.send disk.host document text) s).1 = .error e) ∧
      disk.text? (exec (d.send disk.host document text) s).2 = disk.text? s) ∨
    disk.Delivers text (disk.text? s) (exec (d.send disk.host document text) s)
      (d.path? document) := by
  cases hd : d.path? document with
  | none =>
      unfold Destination.send
      rw [hd]
      exact .inr ⟨rfl, rfl⟩
  | some path =>
      cases hwrite : (disk.host.write path text).run s with
      | mk result s' =>
        rw [exec_send disk hd hwrite]
        cases result with
        | ok done =>
            obtain ⟨f, hf, hupdate⟩ := disk.text?_write path text s (by rw [hwrite])
            rw [hwrite] at hupdate
            exact .inr ⟨rfl, f, hf, hupdate⟩
        | error fault =>
            have hkept := disk.text?_write_error path text s fault (by rw [hwrite])
            rw [hwrite] at hkept
            exact .inl ⟨⟨_, rfl⟩, hkept⟩

/-- An edit fails and the texts of all files stay, or it gives the text of a context where it is
printed, and this text arrives. -/
theorem edit_cases (document : String) (e : Edit) (d : Destination) (s : σ) :
    ((∃ failure, (disk.run settings fresh (.edit document e d) s).1 = .error failure) ∧
      disk.text? (disk.run settings fresh (.edit document e d) s).2 = disk.text? s) ∨
    ∃ c : Context, (disk.run settings fresh (.edit document e .output) s).1 = .ok c.text ∧
      disk.Delivers c.text (disk.text? s) (disk.run settings fresh (.edit document e d) s)
        (d.path? document) := by
  have hkept := keeps_output disk settings fresh document e s
  have hrun : disk.run settings fresh (.edit document e d) s =
      exec ((Command.edit document e .output).run disk.host settings fresh >>= fun text =>
        d.send disk.host document text) s := by
    rw [run, run_edit]
  cases houtput : exec ((Command.edit document e .output).run disk.host settings fresh) s with
  | mk result s₁ =>
    rw [houtput] at hkept
    cases result with
    | error failure =>
        rw [hrun, exec_bind_error houtput]
        exact .inl ⟨⟨failure, rfl⟩, hkept⟩
    | ok written =>
        obtain ⟨c, rfl⟩ := exists_of_output disk settings fresh houtput
        rw [hrun, exec_bind_ok houtput, ← hkept]
        rcases disk.send_cases document c.text d s₁ with hfailed | hsent
        · exact .inl hfailed
        · exact .inr ⟨c, by rw [run, houtput], hsent⟩

end Disk

theorem Context.text_ne_empty (c : Context) : c.text ≠ "" := by
  intro h
  obtain ⟨first, rest, htext, -⟩ := Json.exists_prettyAt_cons c.toDocument.toJson 0
  have hempty : (c.toDocument.toJson.prettyAt 0).toList = [] := by
    change c.text.toList = []
    rw [h]
    rfl
  rw [hempty] at htext
  cases htext

/-- The file to write to is the one that is named, or else, if this is asked for, the one that was
read. -/
theorem Command.path?_destinationOf (p : CommandLine.Progress) (document : String) :
    (destinationOf p).path? document =
      (p.value? "output").or (if p.has "in-place" then some document else none) := by
  unfold destinationOf
  cases p.value? "output" with
  | some path => rfl
  | none => cases p.has "in-place" <;> rfl

/-! ### A directory -/

namespace Workspace

theorem lookup_put (name text : String) (files : List (String × String)) (n : String) :
    (put name text files).lookup n = if n = name then some text else files.lookup n := by
  induction files with
  | nil =>
      by_cases h : n = name
      · rw [if_pos h, h, put, List.lookup_cons_self]
      · rw [if_neg h, put, lookup_cons_of_ne h]
  | cons entry rest ih =>
      obtain ⟨first, t⟩ := entry
      rw [put]
      by_cases hfirst : first = name
      · subst hfirst
        rw [if_pos rfl]
        by_cases h : n = first
        · rw [if_pos h, h, List.lookup_cons_self]
        · rw [if_neg h, lookup_cons_of_ne h, lookup_cons_of_ne h]
      · rw [if_neg hfirst]
        by_cases h : n = first
        · rw [h, List.lookup_cons_self, List.lookup_cons_self, if_neg hfirst]
        · rw [lookup_cons_of_ne h, lookup_cons_of_ne h, ih]

/-- Where a path leads does not depend on the texts of files. -/
theorem follow_eq_ok (w w' : Workspace) {inside : Bool} {names : List String} {p : Place}
    (h : w.follow inside names = .ok p) : w'.follow inside names = .ok p := by
  induction names generalizing inside with
  | nil => exact h
  | cons name rest ih =>
      unfold follow at h ⊢
      split_ifs at h ⊢
      · exact ih h
      · exact ih h
      · exact h

theorem place_eq_ok (w w' : Workspace) {path : String} {p : Place} (h : w.place path = .ok p) :
    w'.place path = .ok p := by
  unfold place at h ⊢
  split_ifs at h ⊢
  exact follow_eq_ok w w' h

/-- The name of the file that a path leads to, if it is in the directory. -/
def name? (path : String) : Option String :=
  match place ⟨[], []⟩ path with
  | .ok (.entry true name) => some name
  | _ => none

theorem exists_of_write {w w' : Workspace} {path text : String} (h : w.write path text = .ok w') :
    ∃ name, name? path = some name ∧
      w'.file? = Function.update w.file? name (some text) := by
  obtain ⟨p, hp, h⟩ := bind_eq_ok_iff.mp h
  cases p with
  | directory => cases h
  | entry inside name =>
      have hname : inside = true ∧ w' = { w with files := put name text w.files } := by
        dsimp only at h
        split_ifs at h with _ _ hinside
        cases h
        exact ⟨hinside, rfl⟩
      obtain ⟨rfl, rfl⟩ := hname
      refine ⟨name, ?_, ?_⟩
      · rw [name?, place_eq_ok w ⟨[], []⟩ hp]
      · funext n
        rw [Function.update_apply]
        exact lookup_put name text w.files n

theorem run_write (w : Workspace) (path text : String) :
    (host.write path text).run w =
      match w.write path text with
      | .ok w' => (.ok (), w')
      | .error e => (.error e, w) := rfl

/-- A directory with a network, as surroundings. -/
def disk (network : Request → Reply) : Disk Workspace String where
  host := { Workspace.host with send := fun request w => (network request, w) }
  place? := name?
  text? := file?
  text?_read _ _ := rfl
  text?_getVariable _ _ := rfl
  text?_send _ _ := rfl
  text?_write path text w h := by
    rw [run_write] at h ⊢
    cases hwrite : w.write path text with
    | ok w' => exact exists_of_write hwrite
    | error e =>
        rw [hwrite] at h
        cases h
  text?_write_error path text w fault h := by
    rw [run_write] at h ⊢
    cases hwrite : w.write path text with
    | ok w' =>
        rw [hwrite] at h
        cases h
    | error e => rfl

end Workspace

/-- A command that fails changes no file, and neither does a report. An edit that succeeds gives the
text that it would print: it prints it, or it writes it into one file and prints nothing. This file
is the one that is named, or else, if this is asked for, the one that was read. -/
theorem Disk.file_effects {σ φ : Type} [DecidableEq φ] (disk : Disk σ φ) (settings : Settings)
    (fresh : Nat → Resource.Id) (s : σ) :
    (∀ command e, (disk.run settings fresh command s).1 = .error e →
      disk.text? (disk.run settings fresh command s).2 = disk.text? s) ∧
    (∀ document r,
      disk.text? (disk.run settings fresh (.report document r) s).2 = disk.text? s) ∧
    (∀ document e d text, (disk.run settings fresh (.edit document e d) s).1 = .ok text →
      ∃ written, (disk.run settings fresh (.edit document e .output) s).1 = .ok written ∧
        disk.Delivers written (disk.text? s) (disk.run settings fresh (.edit document e d) s)
          (d.path? document) ∧
        (text = "" ↔ (d.path? document).isSome = true)) ∧
    ∀ p document, (Command.destinationOf p).path? document =
      (p.value? "output").or (if p.has "in-place" then some document else none) := by
  have hreport : ∀ document r,
      disk.text? (disk.run settings fresh (.report document r) s).2 = disk.text? s :=
    fun document r => keeps_report disk settings fresh document r s
  refine ⟨?_, hreport, ?_, Command.path?_destinationOf⟩
  · intro command failure hfailed
    cases command with
    | report document r => exact hreport document r
    | edit document e d =>
        rcases disk.edit_cases settings fresh document e d s with ⟨-, hkept⟩ | ⟨c, -, hsent⟩
        · exact hkept
        · cases hd : d.path? document with
          | none => exact (hd ▸ hsent : disk.Delivers _ _ _ none).2
          | some path =>
              obtain ⟨hprinted, -⟩ := (hd ▸ hsent : disk.Delivers _ _ _ (some path))
              rw [hprinted] at hfailed
              cases hfailed
  · intro document e d text hdone
    rcases disk.edit_cases settings fresh document e d s with ⟨⟨failure, hfailed⟩, -⟩ |
      ⟨c, houtput, hsent⟩
    · rw [hfailed] at hdone
      cases hdone
    · refine ⟨c.text, houtput, hsent, ?_⟩
      cases hd : d.path? document with
      | none =>
          obtain ⟨hprinted, -⟩ := (hd ▸ hsent : disk.Delivers _ _ _ none)
          rw [hprinted] at hdone
          cases hdone
          exact iff_of_false c.text_ne_empty Bool.false_ne_true
      | some path =>
          obtain ⟨hprinted, -⟩ := (hd ▸ hsent : disk.Delivers _ _ _ (some path))
          rw [hprinted] at hdone
          cases hdone
          exact iff_of_true rfl rfl

/-- A directory without a network. -/
def unconnected : Disk Workspace String := Workspace.disk fun _ => .unreachable

/-- A directory with a map that has no resources. -/
def emptyMap : Workspace := ⟨[("map.json", (Context.empty "map").text)], []⟩

/-- The map as it is read; a saved map announces its profile. -/
def emptyMapRead : Context :=
  { Context.empty "map" with
    properties := { extension := [("profile", .text Context.profile)] } }

/-- A resource is inserted into the map, which goes to a destination. -/
def insertRoads (d : Destination) : Except Failure String × Workspace :=
  unconnected.run {} toString
    (.edit "map.json" (.insert "Roads" (some "roads") none .lastChild) d) emptyMap

theorem insertRoads_inPlace : (insertRoads .inPlace).1 = .ok "" := by
  have hread : Context.read (Context.empty "map").text = .ok emptyMapRead := by
    rw [Context.read, Context.document_read_text]
    rfl
  have hcontext : Disk.exec (unconnected.host.readContext "map.json") emptyMap =
      (.ok emptyMapRead, emptyMap) :=
    unconnected.exec_readAs rfl hread _
  have hinserted : (emptyMapRead.insert none (.new "roads" (.root 0) "Roads")
      .lastChild).toOption.any (fun _ => true) = true := by decide +kernel
  obtain ⟨c, hc, -⟩ := exists_eq_ok_of_any hinserted
  have happly : Disk.exec (Edit.apply unconnected.host {} toString emptyMapRead
      (.insert "Roads" (some "roads") none .lastChild)) emptyMap = (.ok c, emptyMap) := by
    change Disk.exec (liftM (Failure.ofContext (emptyMapRead.insert none
      (.new "roads" (.root 0) "Roads") .lastChild))) emptyMap = _
    rw [hc]
    rfl
  have hwrite : (unconnected.host.write "map.json" c.text).run emptyMap =
      (.ok (), ⟨[("map.json", c.text)], []⟩) := rfl
  change (Disk.exec (unconnected.host.readContext "map.json" >>= fun c =>
    Edit.apply unconnected.host {} toString c
        (.insert "Roads" (some "roads") none .lastChild) >>= fun c =>
      Destination.inPlace.send unconnected.host "map.json" c.text) emptyMap).1 = _
  rw [Disk.exec_bind_ok hcontext, Disk.exec_bind_ok happly, unconnected.exec_send rfl hwrite]

/-- The map in the directory is replaced by the text that is printed otherwise. -/
theorem insertRoads_effects :
    ∃ written, (insertRoads .output).1 = .ok written ∧ (insertRoads .inPlace).1 = .ok "" ∧
      unconnected.text? (insertRoads .inPlace).2 =
        Function.update (unconnected.text? emptyMap) "map.json" (some written) := by
  obtain ⟨-, -, hedit, -⟩ := unconnected.file_effects {} toString emptyMap
  obtain ⟨written, houtput, hsent, -⟩ :=
    hedit "map.json" (.insert "Roads" (some "roads") none .lastChild) .inPlace ""
      insertRoads_inPlace
  obtain ⟨-, f, hf, hfile⟩ := hsent
  have hname : Workspace.name? "map.json" = some "map.json" := rfl
  change Workspace.name? "map.json" = some f at hf
  rw [hname] at hf
  cases hf
  exact ⟨written, houtput, insertRoads_inPlace, hfile⟩

end MapContext
