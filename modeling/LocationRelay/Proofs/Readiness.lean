import LocationRelay.Startup
import LocationRelay.Proofs.ShutdownComplete
import LocationRelay.Proofs.Whole

/-! # When a server is ready

A server that a plan brings up answers that it is ready for as long as its broker is left alone and nobody
shuts the gateway down. Once a shutdown has returned, it never answers so again, whether or not it is still
marked as ready.
-/
namespace LocationRelay

theorem Health.reply_readyz (h : Health) :
    h.reply "GET" "/readyz" = if h.isReady then ⟨200, "ready"⟩ else ⟨503, "not-ready"⟩ := by
  rw [reply, if_neg fun hne => hne rfl]

namespace Gateway

theorem isReady_health (g : Gateway) (marked : Bool) :
    (g.health marked).isReady = (marked && !g.broker.closed) := by
  simp [health, Health.isReady]

theorem Intact.ready {g : Gateway} (hg : g.Intact) :
    (g.health true).reply "GET" "/readyz" = ⟨200, "ready"⟩ := by
  rw [Health.reply_readyz, isReady_health, hg.opened]
  rfl

theorem Down.unready {g : Gateway} (hg : g.Down) (marked : Bool) :
    (g.health marked).reply "GET" "/readyz" = ⟨503, "not-ready"⟩ := by
  rw [Health.reply_readyz, isReady_health, hg.closed, Bool.not_true, Bool.and_false]
  rfl

end Gateway

namespace ServerPlan

open Gateway

theorem ready_of_run {p : ServerPlan} {as : List Gateway.Action} {g : Gateway}
    (hrun : p.gateway.run as = some g) (hkept : ∀ a ∈ as, a.isLoss = false) :
    (g.health true).reply "GET" "/readyz" = ⟨200, "ready"⟩ :=
  ((intact_fresh p.settings.broker.exchange false).run hrun hkept).ready

/-- A server that has shut down stays unready whatever is called afterwards. -/
theorem unready_of_shutdown {p : ServerPlan} {as bs : List Gateway.Action} {g g' : Gateway}
    (hrun : p.gateway.run as = some g) (hshutdown : .shutdown ∈ as) (hdone : g.Settled)
    (hlater : g.run bs = some g') (marked : Bool) :
    (g'.health marked).reply "GET" "/readyz" = ⟨503, "not-ready"⟩ := by
  have hfrom : p.gateway.Consistent := consistent_fresh p.settings.broker.exchange false
  have hg := hfrom.run hrun
  exact ((hg.down (hfrom.begun hrun hshutdown) hdone).run hg hlater).unready marked

end ServerPlan
end LocationRelay
