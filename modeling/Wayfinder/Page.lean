/-
This file lists the pages of the application. A page has three texts: the name it is stored
under, the title shown to people, and the label by which an error message refers to it.
-/

namespace Wayfinder

/-- A page of the application. -/
inductive Page where
  | login
  | transactionHistory
  | transactionDetails
  | portfolio
  | market
  | orderHistory
  | notFound
  | register
  | forgottenPassword
  | resetPassword
  | home
  | withdrawMethod
  | withdraw
  | depositMethod
  | deposit
  | wallet
  | support
  | settings
  | twoFactorSettings
  | changePassword
  | recoveryKeys
  | paymentMethods
  | enableTwoFactor
  | verifyTwoFactor
  | updatePhone
  | disableTwoFactor
  deriving DecidableEq, Repr, Inhabited

namespace Page

/-- The pages that routes lead to from the start. -/
def active : List Page :=
  [login, transactionHistory, transactionDetails, portfolio, market, orderHistory]

/-- The planned pages, whose routes are enabled one by one. -/
def backlog : List Page :=
  [register, forgottenPassword, resetPassword, home, withdrawMethod, withdraw, depositMethod,
    deposit, wallet, support, settings, twoFactorSettings, changePassword, recoveryKeys,
    paymentMethods, enableTwoFactor, verifyTwoFactor, updatePhone, disableTwoFactor]

/-- Every page: the active ones, the page for unknown addresses, and the planned ones. -/
def all : List Page :=
  active ++ notFound :: backlog

/-- Every page is listed. -/
theorem mem_all (page : Page) : page ∈ all := by
  cases page <;> decide

/-- A page is planned when it is in the backlog. -/
def isPlanned (page : Page) : Bool :=
  backlog.contains page

/-- The name a page is stored under. -/
def name : Page → String
  | login => "login"
  | transactionHistory => "transaction_history"
  | transactionDetails => "transaction_details"
  | portfolio => "portfolio"
  | market => "stock_table_with_order_form"
  | orderHistory => "order_history"
  | notFound => "not_found"
  | register => "register"
  | forgottenPassword => "forget_password"
  | resetPassword => "reset_password"
  | home => "home"
  | withdrawMethod => "withdraw_choose_payment_method"
  | withdraw => "withdraw"
  | depositMethod => "deposit_choose_payment_method"
  | deposit => "deposit"
  | wallet => "wallet"
  | support => "support"
  | settings => "setting"
  | twoFactorSettings => "two_factor_settings"
  | changePassword => "change_password"
  | recoveryKeys => "generate_recovery_keys"
  | paymentMethods => "payment_methods"
  | enableTwoFactor => "enable_two_factor"
  | verifyTwoFactor => "two_factor_verification"
  | updatePhone => "update_phone_number"
  | disableTwoFactor => "disable_two_factor"

/-- The page stored under a name. -/
def ofName? (text : String) : Option Page :=
  all.find? (·.name == text)

/-- The title shown in headings and in the header bar. -/
def title : Page → String
  | login => "Login"
  | transactionHistory => "Transaction History"
  | transactionDetails => "Transaction Details"
  | portfolio => "Portfolio"
  | market => "Market"
  | orderHistory => "Order History"
  | notFound => "Page Not Found"
  | register => "Register"
  | forgottenPassword => "Forgot Password"
  | resetPassword => "Reset Password"
  | home => "Home"
  | withdrawMethod => "Withdraw: Choose Payment Method"
  | withdraw => "Withdraw"
  | depositMethod => "Deposit: Choose Payment Method"
  | deposit => "Deposit"
  | wallet => "Wallet"
  | support => "Support"
  | settings => "Settings"
  | twoFactorSettings => "Two-Factor Settings"
  | changePassword => "Change Password"
  | recoveryKeys => "Generate Recovery Keys"
  | paymentMethods => "Payment Methods"
  | enableTwoFactor => "Enable Two-Factor Authentication"
  | verifyTwoFactor => "Two-Factor Verification"
  | updatePhone => "Update Phone Number"
  | disableTwoFactor => "Disable Two-Factor Authentication"

/-- The label by which an error message refers to a page. -/
def label : Page → String
  | login => "Login"
  | transactionHistory => "TransactionHistory"
  | transactionDetails => "TransactionDetails"
  | portfolio => "Portfolio"
  | market => "StockTableWithOrderForm"
  | orderHistory => "OrderHistory"
  | notFound => "NotFound"
  | register => "Register"
  | forgottenPassword => "ForgetPassword"
  | resetPassword => "ResetPassword"
  | home => "Home"
  | withdrawMethod => "WithdrawChoosePaymentMethod"
  | withdraw => "Withdraw"
  | depositMethod => "DepositChoosePaymentMethod"
  | deposit => "Deposit"
  | wallet => "Wallet"
  | support => "Support"
  | settings => "Setting"
  | twoFactorSettings => "TwoFactorSettings"
  | changePassword => "ChangePassword"
  | recoveryKeys => "GenerateRecoveryKeys"
  | paymentMethods => "PaymentMethods"
  | enableTwoFactor => "EnableTwoFactor"
  | verifyTwoFactor => "TwoFactorVerification"
  | updatePhone => "UpdatePhoneNumber"
  | disableTwoFactor => "DisableTwoFactor"

/-- The place of a page in the list of all pages. -/
def rank (page : Page) : Nat :=
  all.idxOf page

/-- Pages in the order of their places in the list of all pages. -/
def sorted (pages : List Page) : List Page :=
  pages.mergeSort fun first second => first.rank ≤ second.rank

end Page

end Wayfinder
