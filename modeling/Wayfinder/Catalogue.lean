/-
This file is the catalogue of routes: the active ones, which every route table of the
application starts with, and the planned ones, which are enabled by their keys. Order matters
among the active routes, since the first route that matches a path wins.
-/
import Wayfinder.Page

namespace Wayfinder

/-- A declared route: the text of a pattern, and the page it leads to. -/
structure Declaration where
  pattern : String
  page : Page
  deriving DecidableEq, Repr

/-- A planned route, which is declared only when its key is enabled. -/
structure PlannedRoute where
  key : String
  declaration : Declaration
  deriving DecidableEq, Repr

namespace Catalogue

/-- The active routes, in the order in which they are tried. -/
def activeRoutes : List Declaration :=
  [⟨"/", .login⟩,
    ⟨"/transaction-history", .transactionHistory⟩,
    ⟨"/transaction-history/:transactionId/details", .transactionDetails⟩,
    ⟨"/:accountId/portfolio", .portfolio⟩,
    ⟨"/market", .market⟩,
    ⟨"/order-history", .orderHistory⟩]

/-- The planned routes. -/
def plannedRoutes : List PlannedRoute :=
  [⟨"register", ⟨"/register", .register⟩⟩,
    ⟨"forget-password", ⟨"/forget-password", .forgottenPassword⟩⟩,
    ⟨"reset-password", ⟨"/reset-password", .resetPassword⟩⟩,
    ⟨"home", ⟨"/home", .home⟩⟩,
    ⟨"withdraw-choose-payment-method",
      ⟨"/:accountId/withdraw/choose-payment-method", .withdrawMethod⟩⟩,
    ⟨"withdraw", ⟨"/:accountId/withdraw/:paymentMethodId", .withdraw⟩⟩,
    ⟨"deposit-choose-payment-method",
      ⟨"/:accountId/deposit/choose-payment-method", .depositMethod⟩⟩,
    ⟨"deposit", ⟨"/:accountId/deposit/:paymentMethodId", .deposit⟩⟩,
    ⟨"wallet", ⟨"/wallet", .wallet⟩⟩,
    ⟨"support", ⟨"/support", .support⟩⟩,
    ⟨"setting", ⟨"/setting", .settings⟩⟩,
    ⟨"two-factor-settings", ⟨"/setting/2fa-settings", .twoFactorSettings⟩⟩,
    ⟨"change-password", ⟨"/setting/change-password", .changePassword⟩⟩,
    ⟨"generate-recovery-keys", ⟨"/setting/generate-recovery-keys", .recoveryKeys⟩⟩,
    ⟨"payment-methods", ⟨"/payment-methods", .paymentMethods⟩⟩,
    ⟨"two-factor-auth", ⟨"/two-factor-auth", .enableTwoFactor⟩⟩,
    ⟨"two-factor-verify", ⟨"/2fa-verify", .verifyTwoFactor⟩⟩,
    ⟨"update-phone", ⟨"/profile/update-phone", .updatePhone⟩⟩,
    ⟨"disable-two-factor", ⟨"/profile/disable2FA", .disableTwoFactor⟩⟩]

/-- The planned route of a key. -/
def planned? (key : String) : Option PlannedRoute :=
  plannedRoutes.find? (·.key == key)

end Catalogue

end Wayfinder
