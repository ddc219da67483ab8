import Baste.ColumnValues

/-!
# The stored schema

Every table of the schema with all its columns, its keys and its foreign keys,
as a backup sees them.  Indexes that are not unique are left out.
-/

namespace Baste

inductive ColumnType where
  | boolean
  | int
  | bigint
  /-- `DECIMAL(digits, 2)`. -/
  | decimal (digits : Nat)
  | varchar (limit : Nat)
  | text
  | enum (values : List String)
  | json
  | datetime
  deriving DecidableEq, Repr

/-- Where a column gets its value when an insertion does not give it one. -/
inductive Presence where
  | autoIncrement
  | required
  | nullable
  | defaultValue (value : ColumnValue)
  | currentTimestamp
  deriving DecidableEq, Repr

structure Column where
  name : String
  type : ColumnType
  presence : Presence
  deriving DecidableEq, Repr

inductive StoredTable where
  | resellers
  | resellerOperators
  | resellerPaymentCards
  | walletTransactions
  | categories
  | packages
  | customers
  | orders
  | disputes
  | activityLogs
  | categoryPriceFloors
  | discountCodes
  | referrals
  | referralLinks
  | forcedJoinChannels
  | blacklist
  | cryptoSettings
  | featureFlags
  | broadcasts
  | globalSettings
  | customerWalletTopups
  | chargeCodes
  | backupLogs
  | billPayments
  | schemaMigrations
  deriving DecidableEq, Repr

namespace StoredTable

def name : StoredTable → String
  | .resellers => "resellers"
  | .resellerOperators => "reseller_operators"
  | .resellerPaymentCards => "reseller_payment_cards"
  | .walletTransactions => "wallet_transactions"
  | .categories => "categories"
  | .packages => "packages"
  | .customers => "customers"
  | .orders => "orders"
  | .disputes => "disputes"
  | .activityLogs => "activity_logs"
  | .categoryPriceFloors => "category_price_floors"
  | .discountCodes => "discount_codes"
  | .referrals => "referrals"
  | .referralLinks => "referral_links"
  | .forcedJoinChannels => "forced_join_channels"
  | .blacklist => "blacklist"
  | .cryptoSettings => "crypto_settings"
  | .featureFlags => "feature_flags"
  | .broadcasts => "broadcasts"
  | .globalSettings => "global_settings"
  | .customerWalletTopups => "customer_wallet_topups"
  | .chargeCodes => "charge_codes"
  | .backupLogs => "backup_logs"
  | .billPayments => "bill_payments"
  | .schemaMigrations => "schema_migrations"

/-- Every table of the database. -/
def all : List StoredTable :=
  [.resellers, .resellerOperators, .resellerPaymentCards,
    .walletTransactions, .categories, .packages, .customers, .orders,
    .disputes, .activityLogs, .categoryPriceFloors, .discountCodes,
    .referrals, .referralLinks, .forcedJoinChannels, .blacklist,
    .cryptoSettings, .featureFlags, .broadcasts, .globalSettings,
    .customerWalletTopups, .chargeCodes, .backupLogs, .billPayments,
    .schemaMigrations]

/-- The table with the given name. -/
def ofName (text : String) : Option StoredTable :=
  all.find? fun table => table.name = text

theorem ofName_name (table : StoredTable) :
    ofName table.name = some table := by
  cases table <;> decide

def columns : StoredTable → List Column
  | .resellers =>
      [⟨"id", .int, .autoIncrement⟩,
        ⟨"bot_token_encrypted", .text, .required⟩,
        ⟨"bot_username", .varchar 64, .required⟩,
        ⟨"telegram_numeric_id", .bigint, .required⟩,
        ⟨"commission_percent", .decimal 5, .defaultValue (.decimal 0)⟩,
        ⟨"wallet_credit_balance", .decimal 14, .defaultValue (.decimal 0)⟩,
        ⟨"credit_limit_negative", .decimal 14, .defaultValue (.decimal 0)⟩,
        ⟨"status",
          .enum ["active", "suspended"], .defaultValue (.text "active")⟩,
        ⟨"order_prefix", .varchar 8, .required⟩,
        ⟨"support_contact", .varchar 128, .nullable⟩,
        ⟨"zarinpal_merchant_id", .varchar 64, .nullable⟩,
        ⟨"end_order_message", .text, .nullable⟩,
        ⟨"test_mode_enabled", .boolean, .defaultValue (.integer 0)⟩,
        ⟨"test_mode_order_limit", .int, .defaultValue (.integer 0)⟩,
        ⟨"test_mode_orders_used", .int, .defaultValue (.integer 0)⟩,
        ⟨"created_at", .datetime, .currentTimestamp⟩]
  | .resellerOperators =>
      [⟨"id", .int, .autoIncrement⟩,
        ⟨"reseller_id", .int, .required⟩,
        ⟨"telegram_user_id", .bigint, .required⟩,
        ⟨"permissions", .json, .nullable⟩,
        ⟨"status",
          .enum ["active", "disabled"], .defaultValue (.text "active")⟩]
  | .resellerPaymentCards =>
      [⟨"id", .int, .autoIncrement⟩,
        ⟨"reseller_id", .int, .required⟩,
        ⟨"card_number", .varchar 32, .required⟩,
        ⟨"card_holder_name", .varchar 64, .required⟩,
        ⟨"bank_name", .varchar 64, .nullable⟩,
        ⟨"is_active", .boolean, .defaultValue (.integer 1)⟩,
        ⟨"created_at", .datetime, .currentTimestamp⟩]
  | .walletTransactions =>
      [⟨"id", .bigint, .autoIncrement⟩,
        ⟨"reseller_id", .int, .required⟩,
        ⟨"type", .enum ["topup", "commission_deduction", "refund"], .required⟩,
        ⟨"amount", .decimal 14, .required⟩,
        ⟨"method", .enum ["card", "zarinpal", "crypto"], .nullable⟩,
        ⟨"status",
          .enum ["pending", "confirmed", "rejected"],
          .defaultValue (.text "confirmed")⟩,
        ⟨"reference", .varchar 64, .nullable⟩,
        ⟨"created_at", .datetime, .currentTimestamp⟩]
  | .categories =>
      [⟨"id", .int, .autoIncrement⟩,
        ⟨"reseller_id", .int, .required⟩,
        ⟨"operator_name", .varchar 64, .required⟩,
        ⟨"parent_category_id", .int, .nullable⟩,
        ⟨"title", .varchar 64, .required⟩,
        ⟨"catalog_type",
          .enum ["package", "charge"], .defaultValue (.text "package")⟩]
  | .packages =>
      [⟨"id", .int, .autoIncrement⟩,
        ⟨"reseller_id", .int, .required⟩,
        ⟨"category_id", .int, .required⟩,
        ⟨"name", .varchar 128, .required⟩,
        ⟨"sale_price", .decimal 14, .required⟩,
        ⟨"cost_price", .decimal 14, .nullable⟩,
        ⟨"is_active", .boolean, .defaultValue (.integer 1)⟩]
  | .customers =>
      [⟨"id", .int, .autoIncrement⟩,
        ⟨"reseller_id", .int, .required⟩,
        ⟨"telegram_user_id", .bigint, .required⟩,
        ⟨"phone", .varchar 20, .nullable⟩,
        ⟨"total_orders", .int, .defaultValue (.integer 0)⟩,
        ⟨"total_spent", .decimal 14, .defaultValue (.decimal 0)⟩,
        ⟨"wallet_balance", .decimal 14, .defaultValue (.decimal 0)⟩]
  | .orders =>
      [⟨"id", .int, .autoIncrement⟩,
        ⟨"order_code", .varchar 32, .required⟩,
        ⟨"reseller_id", .int, .required⟩,
        ⟨"package_id", .int, .required⟩,
        ⟨"customer_id", .int, .required⟩,
        ⟨"status",
          .enum ["awaiting_payment", "awaiting_receipt_review", "confirmed",
            "activated", "rejected", "refund_pending", "refunded",
            "failed_insufficient_credit"],
          .defaultValue (.text "awaiting_payment")⟩,
        ⟨"receipt_image", .varchar 255, .nullable⟩,
        ⟨"phone_number", .varchar 20, .nullable⟩,
        ⟨"package_price", .decimal 14, .required⟩,
        ⟨"commission_amount", .decimal 14, .defaultValue (.decimal 0)⟩,
        ⟨"is_test_order", .boolean, .defaultValue (.integer 0)⟩,
        ⟨"created_at", .datetime, .currentTimestamp⟩,
        ⟨"confirmed_at", .datetime, .nullable⟩,
        ⟨"activated_at", .datetime, .nullable⟩,
        ⟨"paid_from_wallet", .boolean, .defaultValue (.integer 0)⟩,
        ⟨"order_type",
          .enum ["package", "charge"], .defaultValue (.text "package")⟩,
        ⟨"delivered_charge_code", .varchar 128, .nullable⟩]
  | .disputes =>
      [⟨"id", .int, .autoIncrement⟩,
        ⟨"order_id", .int, .required⟩,
        ⟨"reseller_id", .int, .required⟩,
        ⟨"reason", .text, .required⟩,
        ⟨"review_status",
          .enum ["pending", "approved", "rejected"],
          .defaultValue (.text "pending")⟩,
        ⟨"refunded_amount", .decimal 14, .nullable⟩,
        ⟨"created_at", .datetime, .currentTimestamp⟩,
        ⟨"reviewed_at", .datetime, .nullable⟩]
  | .activityLogs =>
      [⟨"id", .bigint, .autoIncrement⟩,
        ⟨"actor_type", .enum ["admin", "reseller", "operator"], .required⟩,
        ⟨"actor_id", .bigint, .required⟩,
        ⟨"reseller_id", .int, .nullable⟩,
        ⟨"action", .varchar 64, .required⟩,
        ⟨"details", .json, .nullable⟩,
        ⟨"created_at", .datetime, .currentTimestamp⟩]
  | .categoryPriceFloors =>
      [⟨"id", .int, .autoIncrement⟩,
        ⟨"operator_name", .varchar 64, .required⟩,
        ⟨"min_sane_price", .decimal 14, .required⟩]
  | .discountCodes =>
      [⟨"id", .int, .autoIncrement⟩,
        ⟨"reseller_id", .int, .required⟩,
        ⟨"code", .varchar 32, .required⟩,
        ⟨"percent", .decimal 5, .required⟩,
        ⟨"usage_limit", .int, .defaultValue (.integer 0)⟩,
        ⟨"usage_count", .int, .defaultValue (.integer 0)⟩,
        ⟨"expires_at", .datetime, .nullable⟩,
        ⟨"is_active", .boolean, .defaultValue (.integer 1)⟩]
  | .referrals =>
      [⟨"id", .int, .autoIncrement⟩,
        ⟨"reseller_id", .int, .required⟩,
        ⟨"is_enabled", .boolean, .defaultValue (.integer 0)⟩,
        ⟨"profit_percent", .decimal 5, .defaultValue (.decimal 0)⟩]
  | .referralLinks =>
      [⟨"id", .int, .autoIncrement⟩,
        ⟨"reseller_id", .int, .required⟩,
        ⟨"referrer_customer_id", .int, .required⟩,
        ⟨"referred_customer_id", .int, .required⟩,
        ⟨"created_at", .datetime, .currentTimestamp⟩]
  | .forcedJoinChannels =>
      [⟨"id", .int, .autoIncrement⟩,
        ⟨"reseller_id", .int, .required⟩,
        ⟨"channel_id", .varchar 64, .required⟩,
        ⟨"set_by", .enum ["admin", "reseller"], .required⟩]
  | .blacklist =>
      [⟨"id", .int, .autoIncrement⟩,
        ⟨"telegram_user_id", .bigint, .required⟩,
        ⟨"reported_by_reseller_id", .int, .nullable⟩,
        ⟨"reason", .varchar 255, .nullable⟩,
        ⟨"is_global", .boolean, .defaultValue (.integer 0)⟩,
        ⟨"created_at", .datetime, .currentTimestamp⟩]
  | .cryptoSettings =>
      [⟨"id", .int, .autoIncrement⟩,
        ⟨"coin_name", .varchar 32, .required⟩,
        ⟨"address", .varchar 128, .required⟩,
        ⟨"network", .varchar 32, .required⟩,
        ⟨"price", .decimal 18, .required⟩,
        ⟨"updated_at", .datetime, .currentTimestamp⟩]
  | .featureFlags =>
      [⟨"id", .int, .autoIncrement⟩,
        ⟨"reseller_id", .int, .required⟩,
        ⟨"feature", .enum ["recharge", "vpn", "bills"], .required⟩,
        ⟨"status",
          .enum ["pending", "approved", "rejected"],
          .defaultValue (.text "pending")⟩,
        ⟨"requested_at", .datetime, .currentTimestamp⟩,
        ⟨"decided_at", .datetime, .nullable⟩]
  | .broadcasts =>
      [⟨"id", .int, .autoIncrement⟩,
        ⟨"message", .text, .required⟩,
        ⟨"sent_at", .datetime, .currentTimestamp⟩]
  | .globalSettings =>
      [⟨"setting_key", .varchar 64, .required⟩,
        ⟨"setting_value", .varchar 255, .required⟩]
  | .customerWalletTopups =>
      [⟨"id", .int, .autoIncrement⟩,
        ⟨"reseller_id", .int, .required⟩,
        ⟨"customer_id", .int, .required⟩,
        ⟨"amount", .decimal 14, .required⟩,
        ⟨"method", .enum ["card", "zarinpal"], .required⟩,
        ⟨"receipt_image", .varchar 255, .nullable⟩,
        ⟨"status",
          .enum ["pending", "confirmed", "confirmed_insufficient_credit",
            "rejected"], .defaultValue (.text "pending")⟩,
        ⟨"created_at", .datetime, .currentTimestamp⟩,
        ⟨"confirmed_at", .datetime, .nullable⟩]
  | .chargeCodes =>
      [⟨"id", .int, .autoIncrement⟩,
        ⟨"reseller_id", .int, .required⟩,
        ⟨"package_id", .int, .required⟩,
        ⟨"code", .varchar 128, .required⟩,
        ⟨"status",
          .enum ["available", "sold"], .defaultValue (.text "available")⟩,
        ⟨"added_at", .datetime, .currentTimestamp⟩,
        ⟨"sold_at", .datetime, .nullable⟩,
        ⟨"sold_to_customer_id", .int, .nullable⟩,
        ⟨"sold_order_id", .int, .nullable⟩]
  | .backupLogs =>
      [⟨"id", .int, .autoIncrement⟩,
        ⟨"taken_by_telegram_id", .bigint, .required⟩,
        ⟨"file_size_bytes", .bigint, .nullable⟩,
        ⟨"note", .varchar 255, .nullable⟩,
        ⟨"created_at", .datetime, .currentTimestamp⟩]
  | .billPayments =>
      [⟨"id", .int, .autoIncrement⟩,
        ⟨"bill_code", .varchar 32, .required⟩,
        ⟨"reseller_id", .int, .required⟩,
        ⟨"customer_id", .int, .required⟩,
        ⟨"bill_id_number", .varchar 64, .required⟩,
        ⟨"amount", .decimal 14, .required⟩,
        ⟨"status",
          .enum ["awaiting_receipt_review", "confirmed", "paid", "rejected"],
          .defaultValue (.text "awaiting_receipt_review")⟩,
        ⟨"receipt_image", .varchar 255, .nullable⟩,
        ⟨"created_at", .datetime, .currentTimestamp⟩,
        ⟨"paid_at", .datetime, .nullable⟩]
  | .schemaMigrations =>
      [⟨"filename", .varchar 255, .required⟩,
        ⟨"applied_at", .datetime, .currentTimestamp⟩]

/-- The primary key and the unique keys. -/
def keys : StoredTable → List (List String)
  | .resellers => [["id"], ["order_prefix"]]
  | .customers => [["id"], ["reseller_id", "telegram_user_id"]]
  | .orders => [["id"], ["order_code"]]
  | .categoryPriceFloors => [["id"], ["operator_name"]]
  | .discountCodes => [["id"], ["reseller_id", "code"]]
  | .referrals => [["id"], ["reseller_id"]]
  | .referralLinks => [["id"], ["reseller_id", "referred_customer_id"]]
  | .featureFlags => [["id"], ["reseller_id", "feature"]]
  | .globalSettings => [["setting_key"]]
  | .billPayments => [["id"], ["bill_code"]]
  | .schemaMigrations => [["filename"]]
  | _ => [["id"]]

/-- The columns of a table have different names. -/
theorem nodup_columns (table : StoredTable) :
    (table.columns.map Column.name).Nodup := by
  cases table <;> decide

end StoredTable

/-- What deleting a row does to the rows that refer to it. -/
inductive OnDelete where
  | restrict
  | cascade
  | setNull
  deriving DecidableEq, Repr

/-- A column whose values are ids of rows of another table. -/
structure ForeignKey where
  table : StoredTable
  column : String
  parent : StoredTable
  onDelete : OnDelete
  deriving DecidableEq, Repr

def foreignKeys : List ForeignKey :=
  [⟨.resellerOperators, "reseller_id", .resellers, .cascade⟩,
    ⟨.resellerPaymentCards, "reseller_id", .resellers, .cascade⟩,
    ⟨.walletTransactions, "reseller_id", .resellers, .cascade⟩,
    ⟨.categories, "reseller_id", .resellers, .cascade⟩,
    ⟨.categories, "parent_category_id", .categories, .setNull⟩,
    ⟨.packages, "reseller_id", .resellers, .cascade⟩,
    ⟨.packages, "category_id", .categories, .cascade⟩,
    ⟨.orders, "reseller_id", .resellers, .cascade⟩,
    ⟨.orders, "package_id", .packages, .restrict⟩,
    ⟨.orders, "customer_id", .customers, .restrict⟩,
    ⟨.disputes, "order_id", .orders, .cascade⟩,
    ⟨.disputes, "reseller_id", .resellers, .cascade⟩,
    ⟨.discountCodes, "reseller_id", .resellers, .cascade⟩,
    ⟨.referrals, "reseller_id", .resellers, .cascade⟩,
    ⟨.referralLinks, "reseller_id", .resellers, .cascade⟩,
    ⟨.forcedJoinChannels, "reseller_id", .resellers, .cascade⟩,
    ⟨.featureFlags, "reseller_id", .resellers, .cascade⟩,
    ⟨.customerWalletTopups, "reseller_id", .resellers, .cascade⟩,
    ⟨.customerWalletTopups, "customer_id", .customers, .cascade⟩,
    ⟨.chargeCodes, "reseller_id", .resellers, .cascade⟩,
    ⟨.chargeCodes, "package_id", .packages, .cascade⟩,
    ⟨.billPayments, "reseller_id", .resellers, .cascade⟩,
    ⟨.billPayments, "customer_id", .customers, .restrict⟩]

end Baste
