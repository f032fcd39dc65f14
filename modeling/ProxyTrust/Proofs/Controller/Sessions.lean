/-
  Sessions of a controller, and the authority over a whole session.

  1. **Sessions** — `Session c run start exchanges` says that the exchanges are those of a session
     that began with the files `start`: one operation after another, each over some state of the
     runner, and between two of them anything may happen to the files that spares an authority
     once it is there.

  2. **One exchange** — an operation that finds an authority changes nothing, and answers as the
     files were that it found (`settled_of_serve`).  This is the step of the induction: the
     invariant is that certificate and fingerprint are those of the exchange after which the
     authority was there (`Kept`).

  3. **The rest of a session** — hence, by induction over the exchanges, it is there for good.
     `authority_never_replaced` puts this together with the first exchange after which it is
     there: at most one exchange makes an authority (`Session.countP_isGenerated_le`).
-/
import ProxyTrust.Command.Script
import ProxyTrust.Proofs.Controller.Requests

namespace ProxyTrust.Controller

open Authority (Draw EnsureOutcome newYear smallDraw)

variable {σ : Type} {c : Controller} {run : Runner σ}

/-! ## Sessions -/

/-- There is something at the path of the certificate, and the certificate and the key read as
    before. -/
structure Kept (ca : CaConfig) (before after : FileSystem) : Prop where
  present : after.pathExists ca.certPath = true
  certificate : after.read ca.certPath = before.read ca.certPath
  key : ∀ p, ca.keyPath = some p → after.read p = before.read p

/-- What may happen to the files between two operations: anything that leaves them a tree, and
    nothing to an authority. -/
structure Spares (ca : CaConfig) (before after : FileSystem) : Prop where
  isTree : before.IsTree → after.IsTree
  kept : before.pathExists ca.certPath = true → Kept ca before after

/-- An operation with the files before and after it. -/
structure Exchange where
  request : Request
  found : FileSystem
  answer : Answer
  left : FileSystem

/-- The exchanges of a session. -/
inductive Session (c : Controller) (run : Runner σ) : FileSystem → List Exchange → Prop
  | nil {fs} : Session c run fs []
  | cons {fs left next answer t rest} (s : σ) (request : Request)
      (hserve : c.serve run fs s request = (answer, left, t))
        (hspares : Spares c.config.ca left next) (hrest : Session c run next rest) :
      Session c run fs (⟨request, fs, answer, left⟩ :: rest)

theorem Kept.refl {ca : CaConfig} {fs : FileSystem} (hexists : fs.pathExists ca.certPath = true) :
    Kept ca fs fs :=
  ⟨hexists, rfl, fun _ _ => rfl⟩

theorem Kept.trans {ca : CaConfig} {before between after : FileSystem} (h : Kept ca before between)
    (hlater : Kept ca between after) : Kept ca before after :=
  ⟨hlater.present, hlater.certificate.trans h.certificate,
    fun p hp => (hlater.key p hp).trans (h.key p hp)⟩

theorem Spares.refl (ca : CaConfig) (fs : FileSystem) : Spares ca fs fs :=
  ⟨id, Kept.refl⟩

/-- The exchange of a request. -/
def exchange (c : Controller) (run : Runner σ) (fs : FileSystem) (s : σ) (request : Request) :
    Exchange :=
  ⟨request, fs, (c.serve run fs s request).1, (c.serve run fs s request).2.1⟩

/-- The exchanges of a session in which nothing else happens. -/
def exchanges (c : Controller) (run : Runner σ) : FileSystem → σ → List Request → List Exchange
  | _, _, [] => []
  | fs, s, request :: rest =>
    c.exchange run fs s request
      :: c.exchanges run (c.exchange run fs s request).left (c.serve run fs s request).2.2 rest

/-- One more exchange in front. -/
theorem Session.front {fs : FileSystem} {rest : List Exchange} (s : σ) (request : Request)
    (h : Session c run (c.exchange run fs s request).left rest) :
    Session c run fs (c.exchange run fs s request :: rest) :=
  .cons s request rfl (.refl _ _) h

/-- Requests that are served one after another, with nothing in between, are a session. -/
theorem session_exchanges (c : Controller) (run : Runner σ) (fs : FileSystem) (s : σ)
    (requests : List Request) : Session c run fs (c.exchanges run fs s requests) := by
  induction requests generalizing fs s with
  | nil => exact .nil
  | cons request rest ih => exact .front s request (ih _ _)

/-! ## One exchange -/

/-- An exchange that found the authority as it was in `fs`, and changed nothing. -/
structure Settled (c : Controller) (fs : FileSystem) (x : Exchange) : Prop where
  unchanged : x.left = x.found
  kept : Kept c.config.ca fs x.left
  ensured : ∀ draw now, x.request = .ensureCa draw now → x.answer = .ensured (.ok .alreadyPresent)
  fingerprint : x.request = .caFingerprint → x.answer = .fingerprint (c.caFingerprint fs)

/-- An operation that finds the authority changes nothing. -/
theorem settled_of_serve {fs found left : FileSystem} {s t : σ} {request : Request}
    {answer : Answer} (hkept : Kept c.config.ca fs found)
    (hserve : c.serve run found s request = (answer, left, t)) :
    Settled c fs ⟨request, found, answer, left⟩ := by
  have hanswer : (c.serve run found s request).1 = answer := congrArg Prod.fst hserve
  have hleft : left = found := by
    have hfiles := serve_files_of_exists hkept.present run s request
    rw [hserve] at hfiles
    exact hfiles
  refine ⟨hleft, ?_, ?_, ?_⟩
  · show Kept c.config.ca fs left
    rw [hleft]
    exact hkept
  · rintro draw now rfl
    rw [← hanswer]
    exact serve_ensureCa_of_exists hkept.present run s draw now
  · rintro rfl
    have hsame : c.caFingerprint found = c.caFingerprint fs :=
      Authority.fingerprintAt_congr hkept.certificate
    rw [← hanswer, ← hsame]
    rfl

/-- An exchange that found the authority did not make one. -/
theorem Settled.not_isGenerated {fs found left : FileSystem} {s t : σ} {request : Request}
    {answer : Answer} (h : Settled c fs ⟨request, found, answer, left⟩)
    (hserve : c.serve run found s request = (answer, left, t)) : answer.isGenerated = false := by
  have hanswer : (c.serve run found s request).1 = answer := congrArg Prod.fst hserve
  rw [Bool.eq_false_iff]
  intro hgenerated
  rw [← hanswer] at hgenerated
  obtain ⟨draw, now, rfl⟩ := ensureCa_of_isGenerated hgenerated
  have hpresent : answer = .ensured (.ok .alreadyPresent) := h.ensured draw now rfl
  rw [hanswer, hpresent] at hgenerated
  nomatch hgenerated

/-! ## The rest of a session -/

/-- Once the authority is there, every exchange finds it, and none makes another one. -/
theorem Session.settled {fs start : FileSystem} {exchanges : List Exchange}
    (h : Session c run start exchanges) (hkept : Kept c.config.ca fs start) :
    ∀ x ∈ exchanges, Settled c fs x ∧ x.answer.isGenerated = false := by
  induction h with
  | nil => exact fun x hx => nomatch hx
  | cons s request hserve hspares _ ih =>
    have hsettled := settled_of_serve hkept hserve
    refine List.forall_mem_cons.mpr ⟨⟨hsettled, hsettled.not_isGenerated hserve⟩, ?_⟩
    have hleft : Kept c.config.ca fs _ := hsettled.kept
    exact ih (hleft.trans (hspares.kept hleft.present))

/-- An exchange that told of an authority left one. -/
theorem exists_of_exchange {found left : FileSystem} {s t : σ} {request : Request} {answer : Answer}
    (htree : found.IsTree) (hserve : c.serve run found s request = (answer, left, t))
    (hprovides : answer.provides = true) : left.pathExists c.config.ca.certPath = true := by
  have hexists := @exists_of_provides σ c found htree run s request
  rw [hserve] at hexists
  exact hexists hprovides

/-- The files of a session remain a tree. -/
theorem isTree_of_serve {found left next : FileSystem} {s t : σ} {request : Request}
    {answer : Answer} (htree : found.IsTree)
    (hserve : c.serve run found s request = (answer, left, t))
    (hspares : Spares c.config.ca left next) : next.IsTree := by
  have hgrows := grows_serve (c := c) htree run s request
  rw [hserve] at hgrows
  exact hspares.isTree (hgrows.isTree htree)

/-- From the exchange on that left an authority, or told of one, the authority is settled. -/
theorem Session.settled_after {start : FileSystem} {before later : List Exchange} {e : Exchange}
    (htree : start.IsTree) (h : Session c run start (before ++ e :: later))
    (hthere : e.left.pathExists c.config.ca.certPath = true ∨ e.answer.provides = true) :
    ∀ x ∈ later, Settled c e.left x := by
  induction before generalizing start with
  | nil =>
    cases h with
    | cons s request hserve hspares hrest =>
      have hexists := hthere.elim id (exists_of_exchange htree hserve)
      exact fun x hx => (hrest.settled (hspares.kept hexists) x hx).1
  | cons first before ih =>
    cases h with
    | cons s request hserve hspares hrest => exact ih (isTree_of_serve htree hserve hspares) hrest

/-- At most one exchange of a session makes an authority. -/
theorem Session.countP_isGenerated_le {start : FileSystem} {exchanges : List Exchange}
    (htree : start.IsTree) (h : Session c run start exchanges) :
    exchanges.countP (·.answer.isGenerated) ≤ 1 := by
  induction h with
  | nil => exact Nat.zero_le 1
  | @cons _ _ _ answer _ rest s request hserve hspares hrest ih =>
    rw [List.countP_cons]
    cases hgenerated : answer.isGenerated with
    | false => exact ih (isTree_of_serve htree hserve hspares)
    | true =>
      -- the exchange left an authority, so that none of the later ones makes another
      have hprovides := provides_of_isGenerated hgenerated
      have hkept := hspares.kept (exists_of_exchange htree hserve hprovides)
      have hnone : rest.countP (·.answer.isGenerated) = 0 := by
        rw [List.countP_eq_zero]
        intro x hx
        rw [(hrest.settled hkept x hx).2]
        exact Bool.false_ne_true
      rw [hnone]
      exact Nat.le_refl 1

/-- An authority is never replaced.  From the moment that an operation left something at the path
    of the certificate, or gave a result that needs an authority, every later operation of the
    session leaves the files as it found them, certificate and key read as they did then,
    provisioning finds them, and all fingerprints are one.  And at most one operation of a session
    makes an authority. -/
theorem authority_never_replaced {start : FileSystem} {exchanges : List Exchange}
    (htree : start.IsTree) (h : Session c run start exchanges) :
    (∀ before e later, exchanges = before ++ e :: later →
      (e.left.pathExists c.config.ca.certPath = true ∨ e.answer.provides = true) →
      ∀ x ∈ later, Settled c e.left x)
    ∧ exchanges.countP (·.answer.isGenerated) ≤ 1 := by
  refine ⟨?_, h.countP_isGenerated_le htree⟩
  rintro before e later rfl hthere
  exact h.settled_after htree hthere

/-! ## A session that begins with nothing -/

/-- A controller with the paths of an empty document. -/
def freshController : Controller := ⟨.default, .linux⟩

/-- An authority is asked for. -/
def firstRequest : Request := .ensureCa smallDraw newYear

/-- The authority trusted, looked for again with another draw, and taken back. -/
def laterRequests : List Request :=
  [.installCa smallDraw newYear, .caFingerprint, .ensureCa { smallDraw with serial := [1] } newYear,
    .uninstallCa none none, .caFingerprint]

/-- The first exchange, over a runner for which every command succeeds. -/
def firstExchange : Exchange :=
  freshController.exchange (Script.runner false) .emptyRoot ⟨[], []⟩ firstRequest

/-- The exchanges after that. -/
def laterExchanges : List Exchange :=
  freshController.exchanges (Script.runner false) firstExchange.left ⟨[], []⟩ laterRequests

theorem firstExchange_isGenerated : firstExchange.answer.isGenerated = true := by
  decide +kernel

/-- A session on an empty root: an authority is made, trusted, asked for again and taken back. -/
theorem freshSession :
    Session freshController (Script.runner false) .emptyRoot (firstExchange :: laterExchanges) :=
  .front ⟨[], []⟩ firstRequest
    (session_exchanges freshController _ firstExchange.left _ laterRequests)

/-- In that session every later exchange finds the authority that was made first. -/
theorem authority_never_replaced_fresh :
    FileSystem.emptyRoot.IsTree
    ∧ Session freshController (Script.runner false) .emptyRoot (firstExchange :: laterExchanges)
    ∧ firstExchange.answer.isGenerated = true
    ∧ ∀ x ∈ laterExchanges, Settled freshController firstExchange.left x := by
  have hprovides : firstExchange.answer.provides = true :=
    provides_of_isGenerated firstExchange_isGenerated
  obtain ⟨hsettled, -⟩ := authority_never_replaced FileSystem.isTree_emptyRoot freshSession
  exact ⟨FileSystem.isTree_emptyRoot, freshSession, firstExchange_isGenerated,
    hsettled [] firstExchange laterExchanges rfl (.inr hprovides)⟩

end ProxyTrust.Controller
