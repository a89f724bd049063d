import ClientForge.Endpoint.Module
import ClientForge.Proofs.Choice.Execution
import ClientForge.Proofs.Entries

namespace ClientForge.Endpoint

open Code

variable {α : Type} {frame : Frame α} {entries : Entries (Datum α)}

def lacks (entries : Entries (Datum α)) (argument : String) : Bool :=
  ((Entries.get? entries argument).getD .none).isNone

theorem mem_keys_of_complete {required : List String} (h : required.find? (lacks entries) = none)
    {argument : String} (hargument : argument ∈ required) : argument ∈ Entries.keys entries := by
  by_contra habsent
  have hgiven := List.find?_eq_none.mp h argument hargument
  rw [lacks, Entries.get?_eq_none_of_not_mem habsent] at hgiven
  exact hgiven rfl

def emptyTexts (names : List String) : Keywords α where
  entries := (distinctFrom [] names).map fun name => (name, .text "")
  nodup := by simpa [Entries.keys, Function.comp_def] using nodup_distinctFrom names List.nodup_nil

theorem get?_emptyTexts (names : List String) (name : String) :
    Entries.get? (emptyTexts names : Keywords α).entries name =
      if name ∈ names then some (.text "") else none := by
  refine (Entries.get?_map_of_injective Function.injective_id (distinctFrom [] names)
    (fun _ => (.text "" : Datum α)) name).trans ?_
  simp

theorem not_lacks_emptyTexts {names required : List String} (h : required ⊆ names) :
    required.find? (lacks (emptyTexts names : Keywords α).entries) = none := by
  rw [List.find?_eq_none]
  intro name hname
  rw [lacks, get?_emptyTexts, if_pos (h hname)]
  exact Bool.false_ne_true

theorem mem_keys_emptyTexts {names : List String} {name : String} :
    name ∈ Entries.keys (emptyTexts names : Keywords α).entries ↔ name ∈ names := by
  rw [← Entries.contains_iff, Entries.contains, get?_emptyTexts]
  split <;> simp_all

def missingText (argument : String) : String :=
  "Required argument '" ++ argument ++ "' missing"

theorem run_doc (world : World α) (text : String) :
    ((Stmt.doc text).run world).run frame = (.ok (), frame) :=
  rfl

theorem run_requireArgument (world : World α) (hfree : frame.IsFree)
    (hentries : Entries.get? frame.locals "arguments" = some (.mapping entries)) (argument : String) :
    ((requireArgument argument).run world).run frame =
      if lacks entries argument then (.error (.raised "ValueError" (missingText argument)), frame)
      else (.ok (), frame) := by
  have hargs : (evalEach world [] [.text argument]).run frame = (.ok [.text argument], frame) :=
    evalEach_cons (eval_text world [] argument) (evalEach_nil world)
  have hget : ((Expr.call (.attribute (.name "arguments") "get") [.text argument] []).eval world []).run
      frame = (.ok ((Entries.get? entries argument).getD .none), frame) := by
    rw [eval_method hentries hargs (evalKeywords_nil world)]
    rfl
  have htest : ((Expr.compare (.call (.attribute (.name "arguments") "get") [.text argument] []) .same
      .null).eval world []).run frame = (.ok (.truth (lacks entries argument)), frame) := by
    rw [eval_compare _ hget (eval_null world [])]
    rfl
  rw [requireArgument, run_branch _ _ htest]
  cases lacks entries argument with
  | true => exact (runEach_singleton _).trans (run_fail hfree _)
  | false => rfl

theorem run_guards (world : World α) (hfree : frame.IsFree)
    (hentries : Entries.get? frame.locals "arguments" = some (.mapping entries)) (required : List String) :
    (runEach world (required.map requireArgument)).run frame =
      match required.find? (lacks entries) with
      | some argument => (.error (.raised "ValueError" (missingText argument)), frame)
      | none => (.ok (), frame) := by
  induction required with
  | nil => rfl
  | cons argument rest ih =>
    rw [List.map_cons, runEach_cons, run_requireArgument world hfree hentries, List.find?_cons]
    cases lacks entries argument with
    | true => rfl
    | false => exact ih

theorem run_copy (world : World α) (hfree : frame.IsFree)
    (hentries : Entries.get? frame.locals "arguments" = some (.mapping entries)) :
    ((Stmt.assign (.name "arguments") (.call (.name "dict") [.name "arguments"] [])).run world).run frame =
      (.ok (), frame.bind "arguments" (.mapping entries)) := by
  apply run_assign
  rw [eval_call rfl (eval_local hentries), invoke_of_free _ (hfree _ (by decide))]
  rfl

theorem eval_pop (world : World α)
    (hentries : Entries.get? frame.locals "arguments" = some (.mapping entries)) (argument : String)
    {default : Expr} {datum : Datum α} (hdefault : (default.eval world []).run frame = (.ok datum, frame)) :
    ((pop argument default).eval world []).run frame =
      (.ok ((Entries.get? entries argument).getD datum),
        frame.bind "arguments" (.mapping (Entries.erase entries argument))) := by
  have hargs : (evalEach world [] [.text argument, default]).run frame =
      (.ok [.text argument, datum], frame) :=
    evalEach_cons (eval_text world [] argument) (evalEach_cons hdefault (evalEach_nil world))
  rw [pop, eval_method hentries hargs (evalKeywords_nil world)]
  rfl

def valueIn (defaults : Entries String) (entries : Entries (Datum α)) (argument : String) : Datum α :=
  (Entries.get? entries argument).getD (((Entries.get? defaults argument).map .text).getD .none)

theorem valueIn_erase_of_ne (defaults : Entries String) {argument other : String} (h : other ≠ argument) :
    valueIn defaults (Entries.erase entries argument) other = valueIn defaults entries other := by
  rw [valueIn, Entries.get?_erase_of_ne entries h, valueIn]

theorem run_takeArgument (world : World α) (defaults : Entries String)
    (hentries : Entries.get? frame.locals "arguments" = some (.mapping entries)) (argument : String) :
    ((takeArgument defaults argument).run world).run frame =
      (.ok (), (frame.bind "arguments" (.mapping (Entries.erase entries argument))).bind
        (localName argument) (valueIn defaults entries argument)) := by
  have hdefault : ((((Entries.get? defaults argument).map Expr.text).getD .null).eval world []).run frame =
      (.ok (((Entries.get? defaults argument).map Datum.text).getD .none), frame) := by
    cases Entries.get? defaults argument with
    | none => exact eval_null world []
    | some text => exact eval_text world [] text
  exact run_assign _ (eval_pop world hentries argument hdefault)

structure Taken (value : String → Datum α) (names : List String) (entries : Entries (Datum α))
    (before after : Frame α) : Prop where
  arguments : Entries.get? after.locals "arguments" =
    some (.mapping (entries.filter fun p => !names.contains p.1))
  holds : Holds after value names
  others : ∀ id, id ≠ "arguments" → (∀ name ∈ names, localName name ≠ id) →
    Entries.get? after.locals id = Entries.get? before.locals id
  sent : after.sent = before.sent

theorem Taken.isFree {value : String → Datum α} {names : List String} {after : Frame α}
    (h : Taken value names entries frame after) (hfree : frame.IsFree) : after.IsFree := by
  intro id hid
  rw [h.others id]
  · exact hfree id hid
  · rintro rfl
    simp at hid
  · rintro name - rfl
    exact localName_not_mem name hid

theorem run_takes (world : World α) (defaults : Entries String) {names : List String}
    (hnodup : names.Nodup)
    (hentries : Entries.get? frame.locals "arguments" = some (.mapping entries)) :
    ∃ after, (runEach world (names.map (takeArgument defaults))).run frame = (.ok (), after) ∧
      Taken (valueIn defaults entries) names entries frame after := by
  induction names generalizing frame entries with
  | nil =>
    refine ⟨frame, rfl, ?_, ?_, ?_, rfl⟩
    · simpa using hentries
    · rintro name ⟨⟩
    · intro id _ _
      rfl
  | cons argument rest ih =>
    rw [List.nodup_cons] at hnodup
    let next := (frame.bind "arguments" (.mapping (Entries.erase entries argument))).bind
      (localName argument) (valueIn defaults entries argument)
    have hlocal : localName argument ≠ "arguments" := localName_ne (by decide) (by decide)
    have hnext : Entries.get? next.locals "arguments" =
        some (.mapping (Entries.erase entries argument)) := by
      rw [Frame.get?_bind_of_ne _ hlocal, Frame.get?_bind_self]
    obtain ⟨after, hrun, htaken⟩ := ih hnodup.2 hnext
    refine ⟨after, ?_, ?_, ?_, ?_, htaken.sent⟩
    · rw [List.map_cons, runEach_cons, run_takeArgument world defaults hentries]
      exact hrun
    · rw [htaken.arguments, Entries.filter_erase]
    · intro name hname
      rcases List.mem_cons.mp hname with rfl | hrest
      · rw [htaken.others _ hlocal, Frame.get?_bind_self]
        intro other hother heq
        rw [localName_injective heq] at hother
        exact hnodup.1 hother
      · rw [htaken.holds name hrest, valueIn_erase_of_ne]
        rintro rfl
        exact hnodup.1 hrest
    · intro id hid hnames
      rw [htaken.others id hid fun name hname => hnames name (List.mem_cons_of_mem _ hname),
        Frame.get?_bind_of_ne _ (hnames argument List.mem_cons_self),
        Frame.get?_bind_of_ne _ hid.symm]

theorem eval_isParam (world : World α) (hfree : frame.IsFree) (entry : String × Datum α) :
    ((Expr.compare (.name "key") .member (.name "PARAMS")).eval world
      [("key", .text entry.1), ("value", entry.2)]).run frame =
      (.ok (.truth (world.params.contains entry.1)), frame) := by
  have hkey : ((Expr.name "key").eval world [("key", .text entry.1), ("value", entry.2)]).run frame =
      (.ok (.text entry.1), frame) :=
    rfl
  have hparams : ((Expr.name "PARAMS").eval world
      [("key", .text entry.1), ("value", entry.2)]).run frame = (.ok (.names world.params), frame) := by
    rw [Expr.eval_name, World.read, run_bind_ok (run_get frame)]
    simp [Entries.get?, hfree "PARAMS" (by decide)]
  rw [eval_compare _ hkey hparams]
  rfl

theorem run_collectParams (world : World α) (hfree : frame.IsFree)
    (hentries : Entries.get? frame.locals "arguments" = some (.mapping entries))
    (hnodup : (Entries.keys entries).Nodup) :
    (collectParams.run world).run frame =
      (.ok (), frame.bind "params" (.mapping (entries.filter fun p => world.params.contains p.1))) := by
  have hsource : ((Expr.call (.attribute (.name "arguments") "items") [] []).eval world []).run frame =
      (.ok (.items entries), frame) := by
    rw [eval_method hentries (evalEach_nil world) (evalKeywords_nil world)]
    rfl
  apply run_assign
  refine (run_bind_ok hsource _).trans ?_
  dsimp only
  have hcollect : entries.foldl (fun collected p =>
      if world.params.contains p.1 then Entries.put collected p.1 p.2 else collected) [] =
      entries.filter fun p => world.params.contains p.1 :=
    Entries.foldl_put world.params.contains (by simpa using hnodup)
  rw [← hcollect]
  refine run_bind_ok (run_foldlM ?_ entries []) _
  intro collected entry
  have hkey : ((Expr.name "key").eval world [("key", .text entry.1), ("value", entry.2)]).run frame =
      (.ok (.text entry.1), frame) :=
    rfl
  have hvalue : ((Expr.name "value").eval world [("key", .text entry.1), ("value", entry.2)]).run
      frame = (.ok entry.2, frame) :=
    rfl
  rw [run_bind_ok (eval_isParam world hfree entry), run_bind_ok (run_decides _)]
  cases world.params.contains entry.1 with
  | true =>
    rw [if_pos rfl, run_bind_ok hkey]
    dsimp only
    rw [run_bind_ok hvalue]
    rfl
  | false => rfl

theorem run_sendRequest (world : World α) (request : Sent α)
    (hclient : Entries.get? frame.locals "client" = some .client)
    (hmethod : Entries.get? frame.locals "method" = some request.method)
    (hpath : Entries.get? frame.locals "path" = some request.path)
    (hparams : Entries.get? frame.locals "params" = some request.params)
    (hbody : Entries.get? frame.locals "body" = some request.body)
    (hheaders : Entries.get? frame.locals "headers" = some request.headers) :
    (sendRequest.run world).run frame =
      (.error (.returned (world.answer request)), frame.send request) := by
  have hargs : (evalEach world [] [.name "method", .name "path"]).run frame =
      (.ok [request.method, request.path], frame) :=
    evalEach_cons (eval_local hmethod) (evalEach_cons (eval_local hpath) (evalEach_nil world))
  have hkeywords : (evalKeywords world [] [(some "params", .name "params"), (some "body", .name "body"),
      (some "headers", .name "headers")]).run frame =
      (.ok [(some "params", request.params), (some "body", request.body),
        (some "headers", request.headers)], frame) :=
    evalKeywords_cons _ (eval_local hparams) (evalKeywords_cons _ (eval_local hbody)
      (evalKeywords_cons _ (eval_local hheaders) (evalKeywords_nil world)))
  have hcall : ((Expr.call (.attribute (.name "client") "perform_request") [.name "method", .name "path"]
      [(some "params", .name "params"), (some "body", .name "body"),
        (some "headers", .name "headers")]).eval world []).run frame =
      (.ok (world.answer request), frame.send request) :=
    eval_method hclient hargs hkeywords
  rw [sendRequest, Stmt.run_give, run_bind_ok hcall]
  rfl

end ClientForge.Endpoint
