import ClientForge.Choice.Code
import ClientForge.Proofs.Code.Meaning
import ClientForge.Proofs.Run
import ClientForge.Proofs.Template

namespace ClientForge.Code

variable {α : Type} {world : World α} {frame frame' : Frame α}

section Equations

variable (world : World α) (scope : Entries (Datum α))

theorem Expr.eval_name (id : String) : (Expr.name id).eval world scope = world.read scope id :=
  rfl

theorem Expr.eval_function (id : String) (args : List Expr) :
    (Expr.call (.name id) args []).eval world scope = (do
      let args ← evalEach world scope args
      world.invoke scope id args) :=
  rfl

theorem Expr.eval_method (holder method : String) (args : List Expr)
    (keywords : List (Option String × Expr)) :
    (Expr.call (.attribute (.name holder) method) args keywords).eval world scope = (do
      let args ← evalEach world scope args
      let keywords ← evalKeywords world scope keywords
      world.callMethod scope holder method args keywords) :=
  rfl

theorem Expr.eval_conjunction (operands : List Expr) :
    (Expr.conjunction operands).eval world scope = evalAll world scope operands :=
  rfl

theorem Expr.eval_compare (left : Expr) (op : Comparison) (right : Expr) :
    (Expr.compare left op right).eval world scope = (do
      let left ← left.eval world scope
      let right ← right.eval world scope
      orStuck (op.apply left right)) :=
  rfl

theorem Expr.eval_choice (value test other : Expr) :
    (Expr.choice value test other).eval world scope = (do
      if ← (← test.eval world scope).decides then value.eval world scope
      else other.eval world scope) :=
  rfl

theorem Expr.eval_formatted (parts : List FormatPart) :
    (Expr.formatted parts).eval world scope = (do
      return .text (String.ofList (← world.format scope parts))) :=
  rfl

theorem evalAll_cons (e : Expr) (rest : List Expr) :
    evalAll world scope (e :: rest) = (do
      if ← (← e.eval world scope).decides then evalAll world scope rest else pure (.truth false)) :=
  rfl

theorem Stmt.run_assign (id : String) (value : Expr) :
    (Stmt.assign (.name id) value).run world = (do
      let value ← value.eval world []
      modify (·.bind id value)) :=
  rfl

theorem Stmt.run_give (value : Expr) :
    (Stmt.give value).run world = (do throw (.returned (← value.eval world []))) :=
  rfl

theorem Stmt.run_branch (test : Expr) (body other : List Stmt) :
    (Stmt.branch test body other).run world = (do
      if ← (← test.eval world []).decides then runEach world body else runEach world other) :=
  rfl

end Equations

theorem runEach_cons (stmt : Stmt) (rest : List Stmt) :
    (runEach world (stmt :: rest)).run frame =
      match (stmt.run world).run frame with
      | (.ok (), frame) => (runEach world rest).run frame
      | (.error exit, frame) => (.error exit, frame) := by
  change (stmt.run world >>= fun _ => runEach world rest).run frame = _
  rw [run_bind]
  rcases (stmt.run world).run frame with ⟨_ | _, next⟩ <;> rfl

theorem runEach_append (first second : List Stmt) :
    (runEach world (first ++ second)).run frame =
      match (runEach world first).run frame with
      | (.ok (), frame) => (runEach world second).run frame
      | (.error exit, frame) => (.error exit, frame) := by
  induction first generalizing frame with
  | nil => rfl
  | cons stmt rest ih =>
    rw [List.cons_append, runEach_cons, runEach_cons]
    rcases (stmt.run world).run frame with ⟨_ | _, next⟩
    · rfl
    · exact ih

theorem runEach_singleton (stmt : Stmt) :
    (runEach world [stmt]).run frame = (stmt.run world).run frame := by
  rw [runEach_cons]
  rcases (stmt.run world).run frame with ⟨_ | _, next⟩ <;> rfl

theorem run_assign {value : Expr} {datum : Datum α} (id : String)
    (h : (value.eval world []).run frame = (.ok datum, frame')) :
    ((Stmt.assign (.name id) value).run world).run frame = (.ok (), frame'.bind id datum) := by
  rw [Stmt.run_assign, run_bind_ok h]
  rfl

@[simp]
theorem run_decides (b : Bool) : (Datum.truth b : Datum α).decides.run frame = (.ok b, frame) :=
  rfl

theorem run_branch {test : Expr} {decision : Bool} (body other : List Stmt)
    (h : (test.eval world []).run frame = (.ok (.truth decision), frame')) :
    ((Stmt.branch test body other).run world).run frame =
      (runEach world (if decision then body else other)).run frame' := by
  rw [Stmt.run_branch, run_bind_ok h, run_bind_ok (run_decides decision)]
  cases decision <;> rfl

@[simp]
theorem Frame.get?_bind_self (id : String) (datum : Datum α) :
    Entries.get? (frame.bind id datum).locals id = some datum :=
  Entries.get?_put_self _ _ _

theorem Frame.get?_bind_of_ne {id other : String} (datum : Datum α) (h : id ≠ other) :
    Entries.get? (frame.bind id datum).locals other = Entries.get? frame.locals other :=
  Entries.get?_put_of_ne _ _ h

def Frame.IsFree (frame : Frame α) : Prop :=
  ∀ name ∈ ["dict", "listify", "ValueError", "PARAMS"], Entries.get? frame.locals name = none

theorem Frame.IsFree.bind (h : frame.IsFree) {id : String} (datum : Datum α)
    (hid : id ∉ ["dict", "listify", "ValueError", "PARAMS"]) : (frame.bind id datum).IsFree := by
  intro name hname
  rw [Frame.get?_bind_of_ne]
  · exact h name hname
  · rintro rfl
    exact hid hname

theorem read_local (world : World α) {id : String} {datum : Datum α}
    (h : Entries.get? frame.locals id = some datum) :
    (world.read [] id).run frame = (.ok datum, frame) := by
  rw [World.read, run_bind_ok (run_get frame)]
  simp only [Entries.get?, h]
  rfl

theorem eval_local {id : String} {datum : Datum α} (h : Entries.get? frame.locals id = some datum) :
    ((Expr.name id).eval world []).run frame = (.ok datum, frame) := by
  rw [Expr.eval_name]
  exact read_local world h

@[simp]
theorem eval_text (world : World α) (scope : Entries (Datum α)) (s : String) :
    ((Expr.text s).eval world scope).run frame = (.ok (.text s), frame) :=
  rfl

@[simp]
theorem eval_null (world : World α) (scope : Entries (Datum α)) :
    (Expr.null.eval world scope).run frame = (.ok .none, frame) :=
  rfl

theorem evalEach_cons {e : Expr} {rest : List Expr} {datum : Datum α} {values : List (Datum α)}
    (h : (e.eval world []).run frame = (.ok datum, frame))
    (hrest : (evalEach world [] rest).run frame = (.ok values, frame)) :
    (evalEach world [] (e :: rest)).run frame = (.ok (datum :: values), frame) := by
  change (e.eval world [] >>= fun datum => evalEach world [] rest >>= fun values =>
    pure (datum :: values)).run frame = _
  rw [run_bind_ok h, run_bind_ok hrest]
  rfl

@[simp]
theorem evalEach_nil (world : World α) :
    (evalEach world [] []).run frame = (.ok [], frame) :=
  rfl

theorem evalKeywords_cons {e : Expr} {rest : List (Option String × Expr)} {datum : Datum α}
    {values : List (Option String × Datum α)} (name : Option String)
    (h : (e.eval world []).run frame = (.ok datum, frame))
    (hrest : (evalKeywords world [] rest).run frame = (.ok values, frame)) :
    (evalKeywords world [] ((name, e) :: rest)).run frame = (.ok ((name, datum) :: values), frame) := by
  change (e.eval world [] >>= fun datum => evalKeywords world [] rest >>= fun values =>
    pure ((name, datum) :: values)).run frame = _
  rw [run_bind_ok h, run_bind_ok hrest]
  rfl

@[simp]
theorem evalKeywords_nil (world : World α) :
    (evalKeywords world [] []).run frame = (.ok [], frame) :=
  rfl

theorem eval_compare {left right : Expr} {a b : Datum α} (op : Comparison)
    {scope : Entries (Datum α)} (hleft : (left.eval world scope).run frame = (.ok a, frame))
    (hright : (right.eval world scope).run frame = (.ok b, frame)) :
    ((Expr.compare left op right).eval world scope).run frame = (orStuck (op.apply a b)).run frame := by
  rw [Expr.eval_compare, run_bind_ok hleft, run_bind_ok hright]

theorem invoke_of_free {name : String} (args : List (Datum α))
    (h : Entries.get? frame.locals name = none) :
    (world.invoke [] name args).run frame = (world.builtin name args).run frame := by
  rw [World.invoke, run_bind_ok (run_get frame)]
  have hfree : (Entries.contains ([] : Entries (Datum α)) name || Entries.contains frame.locals name) =
      false := by
    simp [Entries.contains, Entries.get?, h]
  rw [hfree]
  rfl

theorem eval_call {function : Expr} {arg : Expr} {datum : Datum α} {name : String}
    (hfunction : function = .name name) (harg : (arg.eval world []).run frame = (.ok datum, frame)) :
    ((Expr.call function [arg] []).eval world []).run frame =
      (world.invoke [] name [datum]).run frame := by
  subst hfunction
  rw [Expr.eval_function, run_bind_ok (evalEach_cons harg (evalEach_nil world))]

theorem eval_method {holder method : String} {args : List Expr}
    {keywords : List (Option String × Expr)} {datum : Datum α} {values : List (Datum α)}
    {named : List (Option String × Datum α)} (hholder : Entries.get? frame.locals holder = some datum)
    (hargs : (evalEach world [] args).run frame = (.ok values, frame))
    (hkeywords : (evalKeywords world [] keywords).run frame = (.ok named, frame)) :
    ((Expr.call (.attribute (.name holder) method) args keywords).eval world []).run frame =
      (world.method holder datum method values named).run frame := by
  rw [Expr.eval_method, run_bind_ok hargs, run_bind_ok hkeywords]
  have hread := read_local world hholder
  cases named <;> exact run_bind_ok hread _

theorem run_fail (h : frame.IsFree) (message : String) :
    ((Stmt.fail "ValueError" message).run world).run frame =
      (.error (.raised "ValueError" message), frame) := by
  have heval : ((Expr.call (.name "ValueError") [.text message] []).eval world []).run frame =
      (.ok (.fault "ValueError" message), frame) := by
    rw [eval_call rfl (eval_text world [] message), invoke_of_free _ (h _ (by decide))]
    rfl
  exact run_bind_ok heval _

end ClientForge.Code
